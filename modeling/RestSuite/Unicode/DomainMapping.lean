/-!
# Characters of domain names

How each character of a domain name is read: some give way to others, some are left out and some are
refused. All others stand for themselves. Code points are in hexadecimal, alone or as a first and a
last one.
-/

namespace RestSuite.Unicode

/-- What gives way to other characters: those characters, an equals sign, and what gives way to
them. A comma stands between entries. -/
def domainMappingTable : String :=
  "61=41 AA 1D2C 1D43 2090 24B6 24D0 FF21 FF41 1CCD6 1D400 1D41A 1D434 1D44E 1D468 1D482 1D49C
   1D4B6 1D4D0 1D4EA 1D504 1D51E 1D538 1D552 1D56C 1D586 1D5A0 1D5BA 1D5D4 1D5EE 1D608 1D622 1D63C
   1D656 1D670 1D68A 1F130, 62=42 1D2E 1D47 212C 24B7 24D1 FF22 FF42 1CCD7 1D401 1D41B 1D435 1D44F
   1D469 1D483 1D4B7 1D4D1 1D4EB 1D505 1D51F 1D539 1D553 1D56D 1D587 1D5A1 1D5BB 1D5D5 1D5EF 1D609
   1D623 1D63D 1D657 1D671 1D68B 1F131, 63=43 1D9C 2102 212D 216D 217D 24B8 24D2 A7F2 FF23 FF43
   1CCD8 1D402 1D41C 1D436 1D450 1D46A 1D484 1D49E 1D4B8 1D4D2 1D4EC 1D520 1D554 1D56E 1D588 1D5A2
   1D5BC 1D5D6 1D5F0 1D60A 1D624 1D63E 1D658 1D672 1D68C 1F12B 1F132, 64=44 1D30 1D48 2145-2146
   216E 217E 24B9 24D3 FF24 FF44 1CCD9 1D403 1D41D 1D437 1D451 1D46B 1D485 1D49F 1D4B9 1D4D3 1D4ED
   1D507 1D521 1D53B 1D555 1D56F 1D589 1D5A3 1D5BD 1D5D7 1D5F1 1D60B 1D625 1D63F 1D659 1D673 1D68D
   1F133, 65=45 1D31 1D49 2091 212F-2130 2147 24BA 24D4 FF25 FF45 1CCDA 1D404 1D41E 1D438 1D452
   1D46C 1D486 1D4D4 1D4EE 1D508 1D522 1D53C 1D556 1D570 1D58A 1D5A4 1D5BE 1D5D8 1D5F2 1D60C 1D626
   1D640 1D65A 1D674 1D68E 1F134, 66=46 1DA0 2131 24BB 24D5 A7F3 FF26 FF46 1CCDB 1D405 1D41F 1D439
   1D453 1D46D 1D487 1D4BB 1D4D5 1D4EF 1D509 1D523 1D53D 1D557 1D571 1D58B 1D5A5 1D5BF 1D5D9 1D5F3
   1D60D 1D627 1D641 1D65B 1D675 1D68F 1F135, 67=47 1D33 1D4D 210A 24BC 24D6 FF27 FF47 1CCDC 1D406
   1D420 1D43A 1D454 1D46E 1D488 1D4A2 1D4D6 1D4F0 1D50A 1D524 1D53E 1D558 1D572 1D58C 1D5A6 1D5C0
   1D5DA 1D5F4 1D60E 1D628 1D642 1D65C 1D676 1D690 1F136, 68=48 2B0 1D34 2095 210B-210E 24BD 24D7
   FF28 FF48 1CCDD 1D407 1D421 1D43B 1D46F 1D489 1D4BD 1D4D7 1D4F1 1D525 1D559 1D573 1D58D 1D5A7
   1D5C1 1D5DB 1D5F5 1D60F 1D629 1D643 1D65D 1D677 1D691 1F137, 69=49 1D35 1D62 2071 2110-2111
   2139 2148 2160 2170 24BE 24D8 FF29 FF49 1CCDE 1D408 1D422 1D43C 1D456 1D470 1D48A 1D4BE 1D4D8
   1D4F2 1D526 1D540 1D55A 1D574 1D58E 1D5A8 1D5C2 1D5DC 1D5F6 1D610 1D62A 1D644 1D65E 1D678 1D692
   1F138, 6A=4A 2B2 1D36 2149 24BF 24D9 2C7C FF2A FF4A 1CCDF 1D409 1D423 1D43D 1D457 1D471 1D48B
   1D4A5 1D4BF 1D4D9 1D4F3 1D50D 1D527 1D541 1D55B 1D575 1D58F 1D5A9 1D5C3 1D5DD 1D5F7 1D611 1D62B
   1D645 1D65F 1D679 1D693 1F139, 6B=4B 1D37 1D4F 2096 212A 24C0 24DA FF2B FF4B 1CCE0 1D40A 1D424
   1D43E 1D458 1D472 1D48C 1D4A6 1D4C0 1D4DA 1D4F4 1D50E 1D528 1D542 1D55C 1D576 1D590 1D5AA 1D5C4
   1D5DE 1D5F8 1D612 1D62C 1D646 1D660 1D67A 1D694 1F13A, 6C=4C 2E1 1D38 2097 2112-2113 216C 217C
   24C1 24DB FF2C FF4C 1CCE1 1D40B 1D425 1D43F 1D459 1D473 1D48D 1D4C1 1D4DB 1D4F5 1D50F 1D529
   1D543 1D55D 1D577 1D591 1D5AB 1D5C5 1D5DF 1D5F9 1D613 1D62D 1D647 1D661 1D67B 1D695 1F13B,
   6D=4D 1D39 1D50 2098 2133 216F 217F 24C2 24DC FF2D FF4D 1CCE2 1D40C 1D426 1D440 1D45A 1D474
   1D48E 1D4C2 1D4DC 1D4F6 1D510 1D52A 1D544 1D55E 1D578 1D592 1D5AC 1D5C6 1D5E0 1D5FA 1D614 1D62E
   1D648 1D662 1D67C 1D696 1F13C, 6E=4E 1D3A 207F 2099 2115 24C3 24DD FF2E FF4E 1CCE3 1D40D 1D427
   1D441 1D45B 1D475 1D48F 1D4A9 1D4C3 1D4DD 1D4F7 1D511 1D52B 1D55F 1D579 1D593 1D5AD 1D5C7 1D5E1
   1D5FB 1D615 1D62F 1D649 1D663 1D67D 1D697 1F13D, 6F=4F BA 1D3C 1D52 2092 2134 24C4 24DE FF2F
   FF4F 1CCE4 1D40E 1D428 1D442 1D45C 1D476 1D490 1D4AA 1D4DE 1D4F8 1D512 1D52C 1D546 1D560 1D57A
   1D594 1D5AE 1D5C8 1D5E2 1D5FC 1D616 1D630 1D64A 1D664 1D67E 1D698 1F13E, 70=50 1D3E 1D56 209A
   2119 24C5 24DF FF30 FF50 1CCE5 1D40F 1D429 1D443 1D45D 1D477 1D491 1D4AB 1D4C5 1D4DF 1D4F9
   1D513 1D52D 1D561 1D57B 1D595 1D5AF 1D5C9 1D5E3 1D5FD 1D617 1D631 1D64B 1D665 1D67F 1D699
   1F13F, 71=51 211A 24C6 24E0 A7F4 FF31 FF51 107A5 1CCE6 1D410 1D42A 1D444 1D45E 1D478 1D492
   1D4AC 1D4C6 1D4E0 1D4FA 1D514 1D52E 1D562 1D57C 1D596 1D5B0 1D5CA 1D5E4 1D5FE 1D618 1D632 1D64C
   1D666 1D680 1D69A 1F140, 72=52 2B3 1D3F 1D63 211B-211D 24C7 24E1 FF32 FF52 1CCE7 1D411 1D42B
   1D445 1D45F 1D479 1D493 1D4C7 1D4E1 1D4FB 1D52F 1D563 1D57D 1D597 1D5B1 1D5CB 1D5E5 1D5FF 1D619
   1D633 1D64D 1D667 1D681 1D69B 1F12C 1F141, 73=53 17F 2E2 209B 24C8 24E2 A7F1 FF33 FF53 1CCE8
   1D412 1D42C 1D446 1D460 1D47A 1D494 1D4AE 1D4C8 1D4E2 1D4FC 1D516 1D530 1D54A 1D564 1D57E 1D598
   1D5B2 1D5CC 1D5E6 1D600 1D61A 1D634 1D64E 1D668 1D682 1D69C 1F142, 74=54 1D40 1D57 209C 24C9
   24E3 FF34 FF54 1CCE9 1D413 1D42D 1D447 1D461 1D47B 1D495 1D4AF 1D4C9 1D4E3 1D4FD 1D517 1D531
   1D54B 1D565 1D57F 1D599 1D5B3 1D5CD 1D5E7 1D601 1D61B 1D635 1D64F 1D669 1D683 1D69D 1F143,
   75=55 1D41 1D58 1D64 24CA 24E4 FF35 FF55 1CCEA 1D414 1D42E 1D448 1D462 1D47C 1D496 1D4B0 1D4CA
   1D4E4 1D4FE 1D518 1D532 1D54C 1D566 1D580 1D59A 1D5B4 1D5CE 1D5E8 1D602 1D61C 1D636 1D650 1D66A
   1D684 1D69E 1F144, 76=56 1D5B 1D65 2164 2174 24CB 24E5 2C7D FF36 FF56 1CCEB 1D415 1D42F 1D449
   1D463 1D47D 1D497 1D4B1 1D4CB 1D4E5 1D4FF 1D519 1D533 1D54D 1D567 1D581 1D59B 1D5B5 1D5CF 1D5E9
   1D603 1D61D 1D637 1D651 1D66B 1D685 1D69F 1F145, 77=57 2B7 1D42 24CC 24E6 FF37 FF57 1CCEC 1D416
   1D430 1D44A 1D464 1D47E 1D498 1D4B2 1D4CC 1D4E6 1D500 1D51A 1D534 1D54E 1D568 1D582 1D59C 1D5B6
   1D5D0 1D5EA 1D604 1D61E 1D638 1D652 1D66C 1D686 1D6A0 1F146, 78=58 2E3 2093 2169 2179 24CD 24E7
   FF38 FF58 1CCED 1D417 1D431 1D44B 1D465 1D47F 1D499 1D4B3 1D4CD 1D4E7 1D501 1D51B 1D535 1D54F
   1D569 1D583 1D59D 1D5B7 1D5D1 1D5EB 1D605 1D61F 1D639 1D653 1D66D 1D687 1D6A1 1F147, 79=59 2B8
   24CE 24E8 FF39 FF59 1CCEE 1D418 1D432 1D44C 1D466 1D480 1D49A 1D4B4 1D4CE 1D4E8 1D502 1D51C
   1D536 1D550 1D56A 1D584 1D59E 1D5B8 1D5D2 1D5EC 1D606 1D620 1D63A 1D654 1D66E 1D688 1D6A2
   1F148, 7A=5A 1DBB 2124 2128 24CF 24E9 FF3A FF5A 1CCEF 1D419 1D433 1D44D 1D467 1D481 1D49B 1D4B5
   1D4CF 1D4E9 1D503 1D537 1D56B 1D585 1D59F 1D5B9 1D5D3 1D5ED 1D607 1D621 1D63B 1D655 1D66F 1D689
   1D6A3 1F149, 20=A0 2000-200A 202F 205F 3000, 20 308=A8, 20 304=AF FFE3, 32=B2 2082 2461 FF12
   1CCF2 1D7D0 1D7DA 1D7E4 1D7EE 1D7F8 1FBF2, 33=B3 2083 2462 FF13 1CCF3 1D7D1 1D7DB 1D7E5 1D7EF
   1D7F9 1FBF3, 20 301=B4 384 1FFD, 3BC=B5 39C 1D6B3 1D6CD 1D6ED 1D707 1D727 1D741 1D761 1D77B
   1D79B 1D7B5, 20 327=B8, 31=B9 2081 2460 FF11 1CCF1 1D7CF 1D7D9 1D7E3 1D7ED 1D7F7 1FBF1, 31 2044
   34=BC, 31 2044 32=BD, 33 2044 34=BE, E0=C0, E1=C1, E2=C2, E3=C3, E4=C4, E5=C5 212B, E6=C6 1D2D
   10783, E7=C7, E8=C8, E9=C9, EA=CA, EB=CB, EC=CC, ED=CD, EE=CE, EF=CF, F0=D0 1D9E, F1=D1, F2=D2,
   F3=D3, F4=D4, F5=D5, F6=D6, F8=D8 107A2, F9=D9, FA=DA, FB=DB, FC=DC, FD=DD, FE=DE, 101=100,
   103=102, 105=104, 107=106, 109=108, 10B=10A, 10D=10C, 10F=10E, 111=110, 113=112, 115=114,
   117=116, 119=118, 11B=11A, 11D=11C, 11F=11E, 121=120, 123=122, 125=124, 127=126 210F A7F8
   10795, 129=128, 12B=12A, 12D=12C, 12F=12E, 69 307=130, 69 6A=132-133, 135=134, 137=136,
   13A=139, 13C=13B, 13E=13D, 6C B7=13F-140, 142=141, 144=143, 146=145, 148=147, 2BC 6E=149,
   14B=14A 1D51, 14D=14C, 14F=14E, 151=150, 153=152 A7F9, 155=154, 157=156, 159=158, 15B=15A,
   15D=15C, 15F=15E, 161=160, 163=162, 165=164, 167=166, 169=168, 16B=16A, 16D=16C, 16F=16E,
   171=170, 173=172, 175=174, 177=176, FF=178, 17A=179, 17C=17B, 17E=17D, 253=181 10785, 183=182,
   185=184, 254=186 1D53, 188=187, 256=189 1078B, 257=18A 1078C, 18C=18B, 1DD=18E 1D32, 259=18F
   1D4A 2094, 25B=190 1D4B 2107, 192=191, 260=193 10793, 263=194 2E0, 269=196 1DA5, 268=197 1DA4,
   199=198, 26F=19C 1D5A, 272=19D 1DAE, 275=19F 1DB1, 1A1=1A0, 1A3=1A2, 1A5=1A4, 280=1A6 107AA,
   1A8=1A7, 283=1A9 1DB4, 1AD=1AC, 288=1AE 107AF, 1B0=1AF, 28A=1B1 1DB7, 28B=1B2 1DB9, 1B4=1B3,
   1B6=1B5, 292=1B7 1DBE, 1B9=1B8, 1BD=1BC, 64 17E=1C4-1C6, 6C 6A=1C7-1C9, 6E 6A=1CA-1CC, 1CE=1CD,
   1D0=1CF, 1D2=1D1, 1D4=1D3, 1D6=1D5, 1D8=1D7, 1DA=1D9, 1DC=1DB, 1DF=1DE, 1E1=1E0, 1E3=1E2,
   1E5=1E4, 1E7=1E6, 1E9=1E8, 1EB=1EA, 1ED=1EC, 1EF=1EE, 64 7A=1F1-1F3, 1F5=1F4, 195=1F6, 1BF=1F7,
   1F9=1F8, 1FB=1FA, 1FD=1FC, 1FF=1FE, 201=200, 203=202, 205=204, 207=206, 209=208, 20B=20A,
   20D=20C, 20F=20E, 211=210, 213=212, 215=214, 217=216, 219=218, 21B=21A, 21D=21C, 21F=21E,
   19E=220, 223=222 1D3D, 225=224, 227=226, 229=228, 22B=22A, 22D=22C, 22F=22E, 231=230, 233=232,
   2C65=23A, 23C=23B, 19A=23D, 2C66=23E, 242=241, 180=243, 289=244 1DB6, 28C=245 1DBA, 247=246,
   249=248, 24B=24A, 24D=24C, 24F=24E, 266=2B1 A7AA, 279=2B4, 27B=2B5, 281=2B6, 20 306=2D8, 20
   307=2D9, 20 30A=2DA, 20 328=2DB, 20 303=2DC, 20 30B=2DD, 295=2E4, 300=340, 301=341, 313=343,
   308 301=344, 3B9=345 399 1FBE 1D6B0 1D6CA 1D6EA 1D704 1D724 1D73E 1D75E 1D778 1D798 1D7B2,
   371=370, 373=372, 2B9=374, 377=376, 20 3B9=37A, 3B=37E FE14 FE54 FF1B, 3F3=37F, 20 308 301=385
   1FEE, 3AC=386 1F71 1FBB, B7=387, 3AD=388 1F73 1FC9, 3AE=389 1F75 1FCB, 3AF=38A 1F77 1FDB,
   3CC=38C 1F79 1FF9, 3CD=38E 3D3 1F7B 1FEB, 3CE=38F 1F7D 1FFB, 3B1=391 1D6A8 1D6C2 1D6E2 1D6FC
   1D71C 1D736 1D756 1D770 1D790 1D7AA, 3B2=392 3D0 1D5D 1D66 1D6A9 1D6C3 1D6E3 1D6FD 1D71D 1D737
   1D757 1D771 1D791 1D7AB, 3B3=393 1D5E 1D67 213D-213E 1D6AA 1D6C4 1D6E4 1D6FE 1D71E 1D738 1D758
   1D772 1D792 1D7AC, 3B4=394 1D5F 1D6AB 1D6C5 1D6E5 1D6FF 1D71F 1D739 1D759 1D773 1D793 1D7AD,
   3B5=395 3F5 1D6AC 1D6C6 1D6DC 1D6E6 1D700 1D716 1D720 1D73A 1D750 1D75A 1D774 1D78A 1D794 1D7AE
   1D7C4, 3B6=396 1D6AD 1D6C7 1D6E7 1D701 1D721 1D73B 1D75B 1D775 1D795 1D7AF, 3B7=397 1D6AE 1D6C8
   1D6E8 1D702 1D722 1D73C 1D75C 1D776 1D796 1D7B0, 3B8=398 3D1 3F4 1DBF 1D6AF 1D6B9 1D6C9 1D6DD
   1D6E9 1D6F3 1D703 1D717 1D723 1D72D 1D73D 1D751 1D75D 1D767 1D777 1D78B 1D797 1D7A1 1D7B1
   1D7C5, 3BA=39A 3F0 1D6B1 1D6CB 1D6DE 1D6EB 1D705 1D718 1D725 1D73F 1D752 1D75F 1D779 1D78C
   1D799 1D7B3 1D7C6, 3BB=39B 1D6B2 1D6CC 1D6EC 1D706 1D726 1D740 1D760 1D77A 1D79A 1D7B4, 3BD=39D
   1D6B4 1D6CE 1D6EE 1D708 1D728 1D742 1D762 1D77C 1D79C 1D7B6, 3BE=39E 1D6B5 1D6CF 1D6EF 1D709
   1D729 1D743 1D763 1D77D 1D79D 1D7B7, 3BF=39F 1D6B6 1D6D0 1D6F0 1D70A 1D72A 1D744 1D764 1D77E
   1D79E 1D7B8, 3C0=3A0 3D6 213C 213F 1D6B7 1D6D1 1D6E1 1D6F1 1D70B 1D71B 1D72B 1D745 1D755 1D765
   1D77F 1D78F 1D79F 1D7B9 1D7C9, 3C1=3A1 3F1 1D68 1D6B8 1D6D2 1D6E0 1D6F2 1D70C 1D71A 1D72C 1D746
   1D754 1D766 1D780 1D78E 1D7A0 1D7BA 1D7C8, 3C3=3A3 3F2 3F9 1D6BA 1D6D3-1D6D4 1D6F4 1D70D-1D70E
   1D72E 1D747-1D748 1D768 1D781-1D782 1D7A2 1D7BB-1D7BC, 3C4=3A4 1D6BB 1D6D5 1D6F5 1D70F 1D72F
   1D749 1D769 1D783 1D7A3 1D7BD, 3C5=3A5 3D2 1D6BC 1D6D6 1D6F6 1D710 1D730 1D74A 1D76A 1D784
   1D7A4 1D7BE, 3C6=3A6 3D5 1D60 1D69 1D6BD 1D6D7 1D6DF 1D6F7 1D711 1D719 1D731 1D74B 1D753 1D76B
   1D785 1D78D 1D7A5 1D7BF 1D7C7, 3C7=3A7 1D61 1D6A 1D6BE 1D6D8 1D6F8 1D712 1D732 1D74C 1D76C
   1D786 1D7A6 1D7C0, 3C8=3A8 1D6BF 1D6D9 1D6F9 1D713 1D733 1D74D 1D76D 1D787 1D7A7 1D7C1, 3C9=3A9
   2126 1D6C0 1D6DA 1D6FA 1D714 1D734 1D74E 1D76E 1D788 1D7A8 1D7C2, 3CA=3AA, 3CB=3AB 3D4,
   3D7=3CF, 3D9=3D8, 3DB=3DA, 3DD=3DC 1D7CA-1D7CB, 3DF=3DE, 3E1=3E0, 3E3=3E2, 3E5=3E4, 3E7=3E6,
   3E9=3E8, 3EB=3EA, 3ED=3EC, 3EF=3EE, 3F8=3F7, 3FB=3FA, 37B=3FD, 37C=3FE, 37D=3FF, 450=400,
   451=401, 452=402, 453=403, 454=404, 455=405 1E069, 456=406 1E04C 1E068, 457=407, 458=408 1E04D,
   459=409, 45A=40A, 45B=40B, 45C=40C, 45D=40D, 45E=40E, 45F=40F 1E06A, 430=410 1E030 1E051,
   431=411 1E031 1E052, 432=412 1C80 1E032 1E053, 433=413 1E033 1E054, 434=414 1C81 1E034 1E055,
   435=415 1E035 1E056, 436=416 1E036 1E057, 437=417 1E037 1E058, 438=418 1E038 1E059, 439=419,
   43A=41A 1E039 1E05A, 43B=41B 1E03A 1E05B, 43C=41C 1E03B, 43D=41D 1D78, 43E=41E 1C82 1E03C
   1E05C, 43F=41F 1E03D 1E05D, 440=420 1E03E, 441=421 1C83 1E03F 1E05E, 442=422 1C84-1C85 1E040,
   443=423 1E041 1E05F, 444=424 1E042 1E060, 445=425 1E043 1E061, 446=426 1E044 1E062, 447=427
   1E045 1E063, 448=428 1E046 1E064, 449=429, 44A=42A 1C86 A69C 1E065, 44B=42B 1E047 1E066,
   44C=42C A69D, 44D=42D 1E048, 44E=42E 1E049, 44F=42F, 461=460, 463=462 1C87, 465=464, 467=466,
   469=468, 46B=46A, 46D=46C, 46F=46E, 471=470, 473=472, 475=474, 477=476, 479=478, 47B=47A,
   47D=47C, 47F=47E, 481=480, 48B=48A, 48D=48C, 48F=48E, 491=490 1E067, 493=492, 495=494, 497=496,
   499=498, 49B=49A, 49D=49C, 49F=49E, 4A1=4A0, 4A3=4A2, 4A5=4A4, 4A7=4A6, 4A9=4A8, 4AB=4AA 1E06B,
   4AD=4AC, 4AF=4AE 1E04F, 4B1=4B0 1E06D, 4B3=4B2, 4B5=4B4, 4B7=4B6, 4B9=4B8, 4BB=4BA, 4BD=4BC,
   4BF=4BE, 4CF=4C0 1E050, 4C2=4C1, 4C4=4C3, 4C6=4C5, 4C8=4C7, 4CA=4C9, 4CC=4CB, 4CE=4CD, 4D1=4D0,
   4D3=4D2, 4D5=4D4, 4D7=4D6, 4D9=4D8 1E04B, 4DB=4DA, 4DD=4DC, 4DF=4DE, 4E1=4E0, 4E3=4E2, 4E5=4E4,
   4E7=4E6, 4E9=4E8 1E04E, 4EB=4EA, 4ED=4EC, 4EF=4EE, 4F1=4F0, 4F3=4F2, 4F5=4F4, 4F7=4F6, 4F9=4F8,
   4FB=4FA, 4FD=4FC, 4FF=4FE, 501=500, 503=502, 505=504, 507=506, 509=508, 50B=50A, 50D=50C,
   50F=50E, 511=510, 513=512, 515=514, 517=516, 519=518, 51B=51A, 51D=51C, 51F=51E, 521=520,
   523=522, 525=524, 527=526, 529=528, 52B=52A, 52D=52C, 52F=52E, 561=531, 562=532, 563=533,
   564=534, 565=535, 566=536, 567=537 558, 568=538, 569=539, 56A=53A, 56B=53B, 56C=53C, 56D=53D,
   56E=53E, 56F=53F, 570=540, 571=541, 572=542, 573=543, 574=544, 575=545, 576=546, 577=547,
   578=548, 579=549, 57A=54A, 57B=54B, 57C=54C, 57D=54D, 57E=54E, 57F=54F, 580=550, 581=551,
   582=552, 583=553, 584=554, 585=555, 586=556, 565 582=587, 627 674=675, 648 674=676, 6C7 674=677
   FBDD, 64A 674=678, 915 93C=958, 916 93C=959, 917 93C=95A, 91C 93C=95B, 921 93C=95C, 922
   93C=95D, 92B 93C=95E, 92F 93C=95F, 9A1 9BC=9DC, 9A2 9BC=9DD, 9AF 9BC=9DF, A32 A3C=A33, A38
   A3C=A36, A16 A3C=A59, A17 A3C=A5A, A1C A3C=A5B, A2B A3C=A5E, B21 B3C=B5C, B22 B3C=B5D, E4D
   E32=E33, ECD EB2=EB3, EAB E99=EDC, EAB EA1=EDD, F0B=F0C, F42 FB7=F43, F4C FB7=F4D, F51 FB7=F52,
   F56 FB7=F57, F5B FB7=F5C, F40 FB5=F69, F71 F72=F73, F71 F74=F75, FB2 F80=F76, FB2 F71 F80=F77,
   FB3 F80=F78, FB3 F71 F80=F79, F71 F80=F81, F92 FB7=F93, F9C FB7=F9D, FA1 FB7=FA2, FA6 FB7=FA7,
   FAB FB7=FAC, F90 FB5=FB9, 2D00=10A0, 2D01=10A1, 2D02=10A2, 2D03=10A3, 2D04=10A4, 2D05=10A5,
   2D06=10A6, 2D07=10A7, 2D08=10A8, 2D09=10A9, 2D0A=10AA, 2D0B=10AB, 2D0C=10AC, 2D0D=10AD,
   2D0E=10AE, 2D0F=10AF, 2D10=10B0, 2D11=10B1, 2D12=10B2, 2D13=10B3, 2D14=10B4, 2D15=10B5,
   2D16=10B6, 2D17=10B7, 2D18=10B8, 2D19=10B9, 2D1A=10BA, 2D1B=10BB, 2D1C=10BC, 2D1D=10BD,
   2D1E=10BE, 2D1F=10BF, 2D20=10C0, 2D21=10C1, 2D22=10C2, 2D23=10C3, 2D24=10C4, 2D25=10C5,
   2D27=10C7, 2D2D=10CD, 10DC=10FC 1C9C, 13F0=13F8, 13F1=13F9, 13F2=13FA, 13F3=13FB, 13F4=13FC,
   13F5=13FD, A64B=1C88 A64A, 1C8A=1C89, 10D0=1C90, 10D1=1C91, 10D2=1C92, 10D3=1C93, 10D4=1C94,
   10D5=1C95, 10D6=1C96, 10D7=1C97, 10D8=1C98, 10D9=1C99, 10DA=1C9A, 10DB=1C9B, 10DD=1C9D,
   10DE=1C9E, 10DF=1C9F, 10E0=1CA0, 10E1=1CA1, 10E2=1CA2, 10E3=1CA3, 10E4=1CA4, 10E5=1CA5,
   10E6=1CA6, 10E7=1CA7, 10E8=1CA8, 10E9=1CA9, 10EA=1CAA, 10EB=1CAB, 10EC=1CAC, 10ED=1CAD,
   10EE=1CAE, 10EF=1CAF, 10F0=1CB0, 10F1=1CB1, 10F2=1CB2, 10F3=1CB3, 10F4=1CB4, 10F5=1CB5,
   10F6=1CB6, 10F7=1CB7, 10F8=1CB8, 10F9=1CB9, 10FA=1CBA, 10FD=1CBD, 10FE=1CBE, 10FF=1CBF,
   250=1D44 2C6F, 251=1D45 2C6D, 1D02=1D46, 25C=1D4C 1D9F A7AB, 1D16=1D54, 1D17=1D55, 1D1D=1D59,
   1D25=1D5C, 252=1D9B 2C70, 255=1D9D, 25F=1DA1, 261=1DA2 A7AC, 265=1DA3 A78D, 26A=1DA6 A7AE,
   1D7B=1DA7, 29D=1DA8 A7B2, 26D=1DA9, 1D85=1DAA, 29F=1DAB, 271=1DAC 2C6E, 270=1DAD, 273=1DAF,
   274=1DB0, 278=1DB2, 282=1DB3 A7C5, 1AB=1DB5, 1D1C=1DB8, 290=1DBC, 291=1DBD, 1E01=1E00,
   1E03=1E02, 1E05=1E04, 1E07=1E06, 1E09=1E08, 1E0B=1E0A, 1E0D=1E0C, 1E0F=1E0E, 1E11=1E10,
   1E13=1E12, 1E15=1E14, 1E17=1E16, 1E19=1E18, 1E1B=1E1A, 1E1D=1E1C, 1E1F=1E1E, 1E21=1E20,
   1E23=1E22, 1E25=1E24, 1E27=1E26, 1E29=1E28, 1E2B=1E2A, 1E2D=1E2C, 1E2F=1E2E, 1E31=1E30,
   1E33=1E32, 1E35=1E34, 1E37=1E36, 1E39=1E38, 1E3B=1E3A, 1E3D=1E3C, 1E3F=1E3E, 1E41=1E40,
   1E43=1E42, 1E45=1E44, 1E47=1E46, 1E49=1E48, 1E4B=1E4A, 1E4D=1E4C, 1E4F=1E4E, 1E51=1E50,
   1E53=1E52, 1E55=1E54, 1E57=1E56, 1E59=1E58, 1E5B=1E5A, 1E5D=1E5C, 1E5F=1E5E, 1E61=1E60 1E9B,
   1E63=1E62, 1E65=1E64, 1E67=1E66, 1E69=1E68, 1E6B=1E6A, 1E6D=1E6C, 1E6F=1E6E, 1E71=1E70,
   1E73=1E72, 1E75=1E74, 1E77=1E76, 1E79=1E78, 1E7B=1E7A, 1E7D=1E7C, 1E7F=1E7E, 1E81=1E80,
   1E83=1E82, 1E85=1E84, 1E87=1E86, 1E89=1E88, 1E8B=1E8A, 1E8D=1E8C, 1E8F=1E8E, 1E91=1E90,
   1E93=1E92, 1E95=1E94, 61 2BE=1E9A, DF=1E9E, 1EA1=1EA0, 1EA3=1EA2, 1EA5=1EA4, 1EA7=1EA6,
   1EA9=1EA8, 1EAB=1EAA, 1EAD=1EAC, 1EAF=1EAE, 1EB1=1EB0, 1EB3=1EB2, 1EB5=1EB4, 1EB7=1EB6,
   1EB9=1EB8, 1EBB=1EBA, 1EBD=1EBC, 1EBF=1EBE, 1EC1=1EC0, 1EC3=1EC2, 1EC5=1EC4, 1EC7=1EC6,
   1EC9=1EC8, 1ECB=1ECA, 1ECD=1ECC, 1ECF=1ECE, 1ED1=1ED0, 1ED3=1ED2, 1ED5=1ED4, 1ED7=1ED6,
   1ED9=1ED8, 1EDB=1EDA, 1EDD=1EDC, 1EDF=1EDE, 1EE1=1EE0, 1EE3=1EE2, 1EE5=1EE4, 1EE7=1EE6,
   1EE9=1EE8, 1EEB=1EEA, 1EED=1EEC, 1EEF=1EEE, 1EF1=1EF0, 1EF3=1EF2, 1EF5=1EF4, 1EF7=1EF6,
   1EF9=1EF8, 1EFB=1EFA, 1EFD=1EFC, 1EFF=1EFE, 1F00=1F08, 1F01=1F09, 1F02=1F0A, 1F03=1F0B,
   1F04=1F0C, 1F05=1F0D, 1F06=1F0E, 1F07=1F0F, 1F10=1F18, 1F11=1F19, 1F12=1F1A, 1F13=1F1B,
   1F14=1F1C, 1F15=1F1D, 1F20=1F28, 1F21=1F29, 1F22=1F2A, 1F23=1F2B, 1F24=1F2C, 1F25=1F2D,
   1F26=1F2E, 1F27=1F2F, 1F30=1F38, 1F31=1F39, 1F32=1F3A, 1F33=1F3B, 1F34=1F3C, 1F35=1F3D,
   1F36=1F3E, 1F37=1F3F, 1F40=1F48, 1F41=1F49, 1F42=1F4A, 1F43=1F4B, 1F44=1F4C, 1F45=1F4D,
   1F51=1F59, 1F53=1F5B, 1F55=1F5D, 1F57=1F5F, 1F60=1F68, 1F61=1F69, 1F62=1F6A, 1F63=1F6B,
   1F64=1F6C, 1F65=1F6D, 1F66=1F6E, 1F67=1F6F, 1F00 3B9=1F80 1F88, 1F01 3B9=1F81 1F89, 1F02
   3B9=1F82 1F8A, 1F03 3B9=1F83 1F8B, 1F04 3B9=1F84 1F8C, 1F05 3B9=1F85 1F8D, 1F06 3B9=1F86 1F8E,
   1F07 3B9=1F87 1F8F, 1F20 3B9=1F90 1F98, 1F21 3B9=1F91 1F99, 1F22 3B9=1F92 1F9A, 1F23 3B9=1F93
   1F9B, 1F24 3B9=1F94 1F9C, 1F25 3B9=1F95 1F9D, 1F26 3B9=1F96 1F9E, 1F27 3B9=1F97 1F9F, 1F60
   3B9=1FA0 1FA8, 1F61 3B9=1FA1 1FA9, 1F62 3B9=1FA2 1FAA, 1F63 3B9=1FA3 1FAB, 1F64 3B9=1FA4 1FAC,
   1F65 3B9=1FA5 1FAD, 1F66 3B9=1FA6 1FAE, 1F67 3B9=1FA7 1FAF, 1F70 3B9=1FB2, 3B1 3B9=1FB3 1FBC,
   3AC 3B9=1FB4, 1FB6 3B9=1FB7, 1FB0=1FB8, 1FB1=1FB9, 1F70=1FBA, 20 313=1FBD 1FBF, 20 342=1FC0, 20
   308 342=1FC1, 1F74 3B9=1FC2, 3B7 3B9=1FC3 1FCC, 3AE 3B9=1FC4, 1FC6 3B9=1FC7, 1F72=1FC8,
   1F74=1FCA, 20 313 300=1FCD, 20 313 301=1FCE, 20 313 342=1FCF, 390=1FD3, 1FD0=1FD8, 1FD1=1FD9,
   1F76=1FDA, 20 314 300=1FDD, 20 314 301=1FDE, 20 314 342=1FDF, 3B0=1FE3, 1FE0=1FE8, 1FE1=1FE9,
   1F7A=1FEA, 1FE5=1FEC, 20 308 300=1FED, 60=1FEF FF40, 1F7C 3B9=1FF2, 3C9 3B9=1FF3 1FFC, 3CE
   3B9=1FF4, 1FF6 3B9=1FF7, 1F78=1FF8, 1F7C=1FFA, 20 314=1FFE, 2010=2011, 20 333=2017, 2032
   2032=2033, 2032 2032 2032=2034, 2035 2035=2036, 2035 2035 2035=2037, 21 21=203C, 20 305=203E
   FE49-FE4C, 3F 3F=2047, 3F 21=2048, 21 3F=2049, 2032 2032 2032 2032=2057, 30=2070 2080 24EA FF10
   1CCF0 1D7CE 1D7D8 1D7E2 1D7EC 1D7F6 1FBF0, 34=2074 2084 2463 FF14 1CCF4 1D7D2 1D7DC 1D7E6 1D7F0
   1D7FA 1FBF4, 35=2075 2085 2464 FF15 1CCF5 1D7D3 1D7DD 1D7E7 1D7F1 1D7FB 1FBF5, 36=2076 2086
   2465 FF16 1CCF6 1D7D4 1D7DE 1D7E8 1D7F2 1D7FC 1FBF6, 37=2077 2087 2466 FF17 1CCF7 1D7D5 1D7DF
   1D7E9 1D7F3 1D7FD 1FBF7, 38=2078 2088 2467 FF18 1CCF8 1D7D6 1D7E0 1D7EA 1D7F4 1D7FE 1FBF8,
   39=2079 2089 2468 FF19 1CCF9 1D7D7 1D7E1 1D7EB 1D7F5 1D7FF 1FBF9, 2B=207A 208A FB29 FE62 FF0B,
   2212=207B 208B, 3D=207C 208C FE66 FF1D, 28=207D 208D FE35 FE59 FF08, 29=207E 208E FE36 FE5A
   FF09, 72 73=20A8, 61 2F 63=2100, 61 2F 73=2101, B0 63=2103, 63 2F 6F=2105, 63 2F 75=2106, B0
   66=2109, 6E 6F=2116, 73 6D=2120, 74 65 6C=2121, 74 6D=2122, 214E=2132, 5D0=2135 FB21, 5D1=2136,
   5D2=2137, 5D3=2138 FB22, 66 61 78=213B, 2211=2140, 31 2044 37=2150, 31 2044 39=2151, 31 2044 31
   30=2152, 31 2044 33=2153, 32 2044 33=2154, 31 2044 35=2155, 32 2044 35=2156, 33 2044 35=2157,
   34 2044 35=2158, 31 2044 36=2159, 35 2044 36=215A, 31 2044 38=215B, 33 2044 38=215C, 35 2044
   38=215D, 37 2044 38=215E, 31 2044=215F, 69 69=2161 2171, 69 69 69=2162 2172, 69 76=2163 2173,
   76 69=2165 2175, 76 69 69=2166 2176, 76 69 69 69=2167 2177, 69 78=2168 2178, 78 69=216A 217A,
   78 69 69=216B 217B, 2184=2183, 30 2044 33=2189, 222B 222B=222C, 222B 222B 222B=222D, 222E
   222E=222F, 222E 222E 222E=2230, 3008=2329 FE3F, 3009=232A FE40, 31 30=2469, 31 31=246A, 31
   32=246B, 31 33=246C, 31 34=246D, 31 35=246E, 31 36=246F, 31 37=2470, 31 38=2471, 31 39=2472, 32
   30=2473, 28 31 29=2474, 28 32 29=2475, 28 33 29=2476, 28 34 29=2477, 28 35 29=2478, 28 36
   29=2479, 28 37 29=247A, 28 38 29=247B, 28 39 29=247C, 28 31 30 29=247D, 28 31 31 29=247E, 28 31
   32 29=247F, 28 31 33 29=2480, 28 31 34 29=2481, 28 31 35 29=2482, 28 31 36 29=2483, 28 31 37
   29=2484, 28 31 38 29=2485, 28 31 39 29=2486, 28 32 30 29=2487, 28 61 29=249C 1F110, 28 62
   29=249D 1F111, 28 63 29=249E 1F112, 28 64 29=249F 1F113, 28 65 29=24A0 1F114, 28 66 29=24A1
   1F115, 28 67 29=24A2 1F116, 28 68 29=24A3 1F117, 28 69 29=24A4 1F118, 28 6A 29=24A5 1F119, 28
   6B 29=24A6 1F11A, 28 6C 29=24A7 1F11B, 28 6D 29=24A8 1F11C, 28 6E 29=24A9 1F11D, 28 6F 29=24AA
   1F11E, 28 70 29=24AB 1F11F, 28 71 29=24AC 1F120, 28 72 29=24AD 1F121, 28 73 29=24AE 1F122, 28
   74 29=24AF 1F123, 28 75 29=24B0 1F124, 28 76 29=24B1 1F125, 28 77 29=24B2 1F126, 28 78 29=24B3
   1F127, 28 79 29=24B4 1F128, 28 7A 29=24B5 1F129, 222B 222B 222B 222B=2A0C, 3A 3A 3D=2A74, 3D
   3D=2A75, 3D 3D 3D=2A76, 2ADD 338=2ADC, 2C30=2C00, 2C31=2C01, 2C32=2C02, 2C33=2C03, 2C34=2C04,
   2C35=2C05, 2C36=2C06, 2C37=2C07, 2C38=2C08, 2C39=2C09, 2C3A=2C0A, 2C3B=2C0B, 2C3C=2C0C,
   2C3D=2C0D, 2C3E=2C0E, 2C3F=2C0F, 2C40=2C10, 2C41=2C11, 2C42=2C12, 2C43=2C13, 2C44=2C14,
   2C45=2C15, 2C46=2C16, 2C47=2C17, 2C48=2C18, 2C49=2C19, 2C4A=2C1A, 2C4B=2C1B, 2C4C=2C1C,
   2C4D=2C1D, 2C4E=2C1E, 2C4F=2C1F, 2C50=2C20, 2C51=2C21, 2C52=2C22, 2C53=2C23, 2C54=2C24,
   2C55=2C25, 2C56=2C26, 2C57=2C27, 2C58=2C28, 2C59=2C29, 2C5A=2C2A, 2C5B=2C2B, 2C5C=2C2C,
   2C5D=2C2D, 2C5E=2C2E, 2C5F=2C2F, 2C61=2C60, 26B=2C62 AB5E, 1D7D=2C63, 27D=2C64 107A8,
   2C68=2C67, 2C6A=2C69, 2C6C=2C6B, 2C73=2C72, 2C76=2C75, 23F=2C7E, 240=2C7F, 2C81=2C80,
   2C83=2C82, 2C85=2C84, 2C87=2C86, 2C89=2C88, 2C8B=2C8A, 2C8D=2C8C, 2C8F=2C8E, 2C91=2C90,
   2C93=2C92, 2C95=2C94, 2C97=2C96, 2C99=2C98, 2C9B=2C9A, 2C9D=2C9C, 2C9F=2C9E, 2CA1=2CA0,
   2CA3=2CA2, 2CA5=2CA4, 2CA7=2CA6, 2CA9=2CA8, 2CAB=2CAA, 2CAD=2CAC, 2CAF=2CAE, 2CB1=2CB0,
   2CB3=2CB2, 2CB5=2CB4, 2CB7=2CB6, 2CB9=2CB8, 2CBB=2CBA, 2CBD=2CBC, 2CBF=2CBE, 2CC1=2CC0,
   2CC3=2CC2, 2CC5=2CC4, 2CC7=2CC6, 2CC9=2CC8, 2CCB=2CCA, 2CCD=2CCC, 2CCF=2CCE, 2CD1=2CD0,
   2CD3=2CD2, 2CD5=2CD4, 2CD7=2CD6, 2CD9=2CD8, 2CDB=2CDA, 2CDD=2CDC, 2CDF=2CDE, 2CE1=2CE0,
   2CE3=2CE2, 2CEC=2CEB, 2CEE=2CED, 2CF3=2CF2, 2D61=2D6F, 6BCD=2E9F, 9F9F=2EF3, 4E00=2F00 3192
   3280 1F229, 4E28=2F01, 4E36=2F02, 4E3F=2F03, 4E59=2F04 319A, 4E85=2F05, 4E8C=2F06 3193 3281
   1F214, 4EA0=2F07, 4EBA=2F08 319F, 513F=2F09, 5165=2F0A, 516B=2F0B 3287, 5182=2F0C, 5196=2F0D,
   51AB=2F0E, 51E0=2F0F, 51F5=2F10 2F81D, 5200=2F11, 529B=2F12 F98A, 52F9=2F13, 5315=2F14,
   531A=2F15, 5338=2F16, 5341=2F17 3038 3289, 535C=2F18, 5369=2F19, 5382=2F1A, 53B6=2F1B,
   53C8=2F1C, 53E3=2F1D, 56D7=2F1E, 571F=2F1F 328F, 58EB=2F20, 5902=2F21, 590A=2F22, 5915=2F23,
   5927=2F24, 5973=2F25 329B F981, 5B50=2F26, 5B80=2F27, 5BF8=2F28, 5C0F=2F29, 5C22=2F2A 2F875,
   5C38=2F2B, 5C6E=2F2C FA3C 2F878, 5C71=2F2D, 5DDB=2F2E, 5DE5=2F2F, 5DF1=2F30, 5DFE=2F31,
   5E72=2F32, 5E7A=2F33, 5E7F=2F34, 5EF4=2F35, 5EFE=2F36 2F890, 5F0B=2F37, 5F13=2F38, 5F50=2F39,
   5F61=2F3A, 5F73=2F3B, 5FC3=2F3C, 6208=2F3D, 6236=2F3E, 624B=2F3F 1F210, 652F=2F40, 6534=2F41,
   6587=2F42 3246, 6597=2F43, 65A4=2F44, 65B9=2F45, 65E0=2F46, 65E5=2F47 3290, 66F0=2F48,
   6708=2F49 328A 1F237, 6728=2F4A 328D, 6B20=2F4B, 6B62=2F4C, 6B79=2F4D FA95, 6BB3=2F4E,
   6BCB=2F4F, 6BD4=2F50, 6BDB=2F51, 6C0F=2F52, 6C14=2F53, 6C34=2F54 328C, 706B=2F55 328B,
   722A=2F56, 7236=2F57, 723B=2F58, 723F=2F59, 7247=2F5A, 7259=2F5B, 725B=2F5C, 72AC=2F5D,
   7384=2F5E, 7389=2F5F, 74DC=2F60, 74E6=2F61, 7518=2F62, 751F=2F63 1F222, 7528=2F64, 7530=2F65,
   758B=2F66, 7592=2F67, 7676=2F68, 767D=2F69, 76AE=2F6A, 76BF=2F6B, 76EE=2F6C, 77DB=2F6D,
   77E2=2F6E, 77F3=2F6F, 793A=2F70, 79B8=2F71, 79BE=2F72, 7A74=2F73, 7ACB=2F74 F9F7, 7AF9=2F75,
   7C73=2F76, 7CF8=2F77, 7F36=2F78, 7F51=2F79, 7F8A=2F7A, 7FBD=2F7B FA1E, 8001=2F7C F934,
   800C=2F7D, 8012=2F7E, 8033=2F7F, 807F=2F80, 8089=2F81, 81E3=2F82, 81EA=2F83, 81F3=2F84,
   81FC=2F85, 820C=2F86, 821B=2F87, 821F=2F88, 826E=2F89, 8272=2F8A, 8278=2F8B, 864D=2F8C,
   866B=2F8D, 8840=2F8E, 884C=2F8F FA08, 8863=2F90 2F9C4, 897E=2F91, 898B=2F92 FA0A, 89D2=2F93,
   8A00=2F94, 8C37=2F95, 8C46=2F96, 8C55=2F97 2F9D2, 8C78=2F98, 8C9D=2F99, 8D64=2F9A, 8D70=2F9B
   1F230, 8DB3=2F9C, 8EAB=2F9D, 8ECA=2F9E F902, 8F9B=2F9F, 8FB0=2FA0 F971, 8FB5=2FA1, 9091=2FA2,
   9149=2FA3, 91C6=2FA4, 91CC=2FA5 F9E9, 91D1=2FA6 328E F90A, 9577=2FA7, 9580=2FA8, 961C=2FA9,
   96B6=2FAA, 96B9=2FAB, 96E8=2FAC, 9751=2FAD, 975E=2FAE, 9762=2FAF, 9769=2FB0, 97CB=2FB1,
   97ED=2FB2, 97F3=2FB3, 9801=2FB4, 98A8=2FB5, 98DB=2FB6, 98DF=2FB7, 9996=2FB8, 9999=2FB9,
   99AC=2FBA, 9AA8=2FBB, 9AD8=2FBC, 9ADF=2FBD, 9B25=2FBE, 9B2F=2FBF, 9B32=2FC0, 9B3C=2FC1,
   9B5A=2FC2, 9CE5=2FC3, 9E75=2FC4, 9E7F=2FC5 F940, 9EA5=2FC6, 9EBB=2FC7 2FA15, 9EC3=2FC8,
   9ECD=2FC9, 9ED1=2FCA, 9EF9=2FCB 2FA17, 9EFD=2FCC, 9F0E=2FCD, 9F13=2FCE, 9F20=2FCF, 9F3B=2FD0
   2FA1C, 9F4A=2FD1, 9F52=2FD2, 9F8D=2FD3 F9C4, 9F9C=2FD4 F907-F908 FACE, 9FA0=2FD5, 2E=3002 FF0E
   FF61, 3012=3036, 5344=3039, 5345=303A, 20 3099=309B, 20 309A=309C, 3088 308A=309F, 30B3
   30C8=30FF, 1100=3131 3260 FFA1, 1101=3132 FFA2, 11AA=3133 FFA3, 1102=3134 3261 FFA4, 11AC=3135
   FFA5, 11AD=3136 FFA6, 1103=3137 3262 FFA7, 1104=3138 FFA8, 1105=3139 3263 FFA9, 11B0=313A FFAA,
   11B1=313B FFAB, 11B2=313C FFAC, 11B3=313D FFAD, 11B4=313E FFAE, 11B5=313F FFAF, 111A=3140 FFB0,
   1106=3141 3264 FFB1, 1107=3142 3265 FFB2, 1108=3143 FFB3, 1121=3144 FFB4, 1109=3145 3266 FFB5,
   110A=3146 FFB6, 110B=3147 3267 FFB7, 110C=3148 3268 FFB8, 110D=3149 FFB9, 110E=314A 3269 FFBA,
   110F=314B 326A FFBB, 1110=314C 326B FFBC, 1111=314D 326C FFBD, 1112=314E 326D FFBE, 1161=314F
   FFC2, 1162=3150 FFC3, 1163=3151 FFC4, 1164=3152 FFC5, 1165=3153 FFC6, 1166=3154 FFC7, 1167=3155
   FFCA, 1168=3156 FFCB, 1169=3157 FFCC, 116A=3158 FFCD, 116B=3159 FFCE, 116C=315A FFCF, 116D=315B
   FFD2, 116E=315C FFD3, 116F=315D FFD4, 1170=315E FFD5, 1171=315F FFD6, 1172=3160 FFD7, 1173=3161
   FFDA, 1174=3162 FFDB, 1175=3163 FFDC, 1114=3165, 1115=3166, 11C7=3167, 11C8=3168, 11CC=3169,
   11CE=316A, 11D3=316B, 11D7=316C, 11D9=316D, 111C=316E, 11DD=316F, 11DF=3170, 111D=3171,
   111E=3172, 1120=3173, 1122=3174, 1123=3175, 1127=3176, 1129=3177, 112B=3178, 112C=3179,
   112D=317A, 112E=317B, 112F=317C, 1132=317D, 1136=317E, 1140=317F, 1147=3180, 114C=3181,
   11F1=3182, 11F2=3183, 1157=3184, 1158=3185, 1159=3186, 1184=3187, 1185=3188, 1188=3189,
   1191=318A, 1192=318B, 1194=318C, 119E=318D, 11A1=318E, 4E09=3194 3282 1F22A, 56DB=3195 3283,
   4E0A=3196 32A4, 4E2D=3197 32A5 1F22D, 4E0B=3198 32A6, 7532=3199, 4E19=319B, 4E01=319C,
   5929=319D 1F217, 5730=319E, 28 1100 29=3200, 28 1102 29=3201, 28 1103 29=3202, 28 1105 29=3203,
   28 1106 29=3204, 28 1107 29=3205, 28 1109 29=3206, 28 110B 29=3207, 28 110C 29=3208, 28 110E
   29=3209, 28 110F 29=320A, 28 1110 29=320B, 28 1111 29=320C, 28 1112 29=320D, 28 AC00 29=320E,
   28 B098 29=320F, 28 B2E4 29=3210, 28 B77C 29=3211, 28 B9C8 29=3212, 28 BC14 29=3213, 28 C0AC
   29=3214, 28 C544 29=3215, 28 C790 29=3216, 28 CC28 29=3217, 28 CE74 29=3218, 28 D0C0 29=3219,
   28 D30C 29=321A, 28 D558 29=321B, 28 C8FC 29=321C, 28 C624 C804 29=321D, 28 C624 D6C4 29=321E,
   28 4E00 29=3220, 28 4E8C 29=3221, 28 4E09 29=3222, 28 56DB 29=3223, 28 4E94 29=3224, 28 516D
   29=3225, 28 4E03 29=3226, 28 516B 29=3227, 28 4E5D 29=3228, 28 5341 29=3229, 28 6708 29=322A,
   28 706B 29=322B, 28 6C34 29=322C, 28 6728 29=322D, 28 91D1 29=322E, 28 571F 29=322F, 28 65E5
   29=3230, 28 682A 29=3231, 28 6709 29=3232, 28 793E 29=3233, 28 540D 29=3234, 28 7279 29=3235,
   28 8CA1 29=3236, 28 795D 29=3237, 28 52B4 29=3238, 28 4EE3 29=3239, 28 547C 29=323A, 28 5B66
   29=323B, 28 76E3 29=323C, 28 4F01 29=323D, 28 8CC7 29=323E, 28 5354 29=323F, 28 796D 29=3240,
   28 4F11 29=3241, 28 81EA 29=3242, 28 81F3 29=3243, 554F=3244, 5E7C=3245, 7B8F=3247, 70 74
   65=3250, 32 31=3251, 32 32=3252, 32 33=3253, 32 34=3254, 32 35=3255, 32 36=3256, 32 37=3257, 32
   38=3258, 32 39=3259, 33 30=325A, 33 31=325B, 33 32=325C, 33 33=325D, 33 34=325E, 33 35=325F,
   AC00=326E, B098=326F, B2E4=3270, B77C=3271, B9C8=3272, BC14=3273, C0AC=3274, C544=3275,
   C790=3276, CC28=3277, CE74=3278, D0C0=3279, D30C=327A, D558=327B, CC38 ACE0=327C, C8FC
   C758=327D, C6B0=327E, 4E94=3284, 516D=3285 F9D1, 4E03=3286, 4E5D=3288, 682A=3291, 6709=3292
   1F236, 793E=3293 FA4C, 540D=3294, 7279=3295, 8CA1=3296, 795D=3297 FA51, 52B4=3298, 79D8=3299,
   7537=329A, 9069=329C, 512A=329D, 5370=329E, 6CE8=329F, 9805=32A0, 4F11=32A1, 5199=32A2,
   6B63=32A3, 5DE6=32A7 1F22C, 53F3=32A8 1F22E, 533B=32A9, 5B97=32AA, 5B66=32AB, 76E3=32AC,
   4F01=32AD, 8CC7=32AE, 5354=32AF, 591C=32B0, 33 36=32B1, 33 37=32B2, 33 38=32B3, 33 39=32B4, 34
   30=32B5, 34 31=32B6, 34 32=32B7, 34 33=32B8, 34 34=32B9, 34 35=32BA, 34 36=32BB, 34 37=32BC, 34
   38=32BD, 34 39=32BE, 35 30=32BF, 31 6708=32C0, 32 6708=32C1, 33 6708=32C2, 34 6708=32C3, 35
   6708=32C4, 36 6708=32C5, 37 6708=32C6, 38 6708=32C7, 39 6708=32C8, 31 30 6708=32C9, 31 31
   6708=32CA, 31 32 6708=32CB, 68 67=32CC, 65 72 67=32CD, 65 76=32CE, 6C 74 64=32CF, 30A2=32D0
   FF71, 30A4=32D1 FF72, 30A6=32D2 FF73, 30A8=32D3 FF74, 30AA=32D4 FF75, 30AB=32D5 FF76, 30AD=32D6
   FF77, 30AF=32D7 FF78, 30B1=32D8 FF79, 30B3=32D9 FF7A, 30B5=32DA FF7B 1F202, 30B7=32DB FF7C,
   30B9=32DC FF7D, 30BB=32DD FF7E, 30BD=32DE FF7F, 30BF=32DF FF80, 30C1=32E0 FF81, 30C4=32E1 FF82,
   30C6=32E2 FF83, 30C8=32E3 FF84, 30CA=32E4 FF85, 30CB=32E5 FF86, 30CC=32E6 FF87, 30CD=32E7 FF88,
   30CE=32E8 FF89, 30CF=32E9 FF8A, 30D2=32EA FF8B, 30D5=32EB FF8C, 30D8=32EC FF8D, 30DB=32ED FF8E,
   30DE=32EE FF8F, 30DF=32EF FF90, 30E0=32F0 FF91, 30E1=32F1 FF92, 30E2=32F2 FF93, 30E4=32F3 FF94,
   30E6=32F4 FF95, 30E8=32F5 FF96, 30E9=32F6 FF97, 30EA=32F7 FF98, 30EB=32F8 FF99, 30EC=32F9 FF9A,
   30ED=32FA FF9B, 30EF=32FB FF9C, 30F0=32FC, 30F1=32FD, 30F2=32FE FF66, 4EE4 548C=32FF, 30A2 30D1
   30FC 30C8=3300, 30A2 30EB 30D5 30A1=3301, 30A2 30F3 30DA 30A2=3302, 30A2 30FC 30EB=3303, 30A4
   30CB 30F3 30B0=3304, 30A4 30F3 30C1=3305, 30A6 30A9 30F3=3306, 30A8 30B9 30AF 30FC 30C9=3307,
   30A8 30FC 30AB 30FC=3308, 30AA 30F3 30B9=3309, 30AA 30FC 30E0=330A, 30AB 30A4 30EA=330B, 30AB
   30E9 30C3 30C8=330C, 30AB 30ED 30EA 30FC=330D, 30AC 30ED 30F3=330E, 30AC 30F3 30DE=330F, 30AE
   30AC=3310, 30AE 30CB 30FC=3311, 30AD 30E5 30EA 30FC=3312, 30AE 30EB 30C0 30FC=3313, 30AD
   30ED=3314, 30AD 30ED 30B0 30E9 30E0=3315, 30AD 30ED 30E1 30FC 30C8 30EB=3316, 30AD 30ED 30EF
   30C3 30C8=3317, 30B0 30E9 30E0=3318, 30B0 30E9 30E0 30C8 30F3=3319, 30AF 30EB 30BC 30A4
   30ED=331A, 30AF 30ED 30FC 30CD=331B, 30B1 30FC 30B9=331C, 30B3 30EB 30CA=331D, 30B3 30FC
   30DD=331E, 30B5 30A4 30AF 30EB=331F, 30B5 30F3 30C1 30FC 30E0=3320, 30B7 30EA 30F3 30B0=3321,
   30BB 30F3 30C1=3322, 30BB 30F3 30C8=3323, 30C0 30FC 30B9=3324, 30C7 30B7=3325, 30C9 30EB=3326,
   30C8 30F3=3327, 30CA 30CE=3328, 30CE 30C3 30C8=3329, 30CF 30A4 30C4=332A, 30D1 30FC 30BB 30F3
   30C8=332B, 30D1 30FC 30C4=332C, 30D0 30FC 30EC 30EB=332D, 30D4 30A2 30B9 30C8 30EB=332E, 30D4
   30AF 30EB=332F, 30D4 30B3=3330, 30D3 30EB=3331, 30D5 30A1 30E9 30C3 30C9=3332, 30D5 30A3 30FC
   30C8=3333, 30D6 30C3 30B7 30A7 30EB=3334, 30D5 30E9 30F3=3335, 30D8 30AF 30BF 30FC 30EB=3336,
   30DA 30BD=3337, 30DA 30CB 30D2=3338, 30D8 30EB 30C4=3339, 30DA 30F3 30B9=333A, 30DA 30FC
   30B8=333B, 30D9 30FC 30BF=333C, 30DD 30A4 30F3 30C8=333D, 30DC 30EB 30C8=333E, 30DB 30F3=333F,
   30DD 30F3 30C9=3340, 30DB 30FC 30EB=3341, 30DB 30FC 30F3=3342, 30DE 30A4 30AF 30ED=3343, 30DE
   30A4 30EB=3344, 30DE 30C3 30CF=3345, 30DE 30EB 30AF=3346, 30DE 30F3 30B7 30E7 30F3=3347, 30DF
   30AF 30ED 30F3=3348, 30DF 30EA=3349, 30DF 30EA 30D0 30FC 30EB=334A, 30E1 30AC=334B, 30E1 30AC
   30C8 30F3=334C, 30E1 30FC 30C8 30EB=334D, 30E4 30FC 30C9=334E, 30E4 30FC 30EB=334F, 30E6 30A2
   30F3=3350, 30EA 30C3 30C8 30EB=3351, 30EA 30E9=3352, 30EB 30D4 30FC=3353, 30EB 30FC 30D6
   30EB=3354, 30EC 30E0=3355, 30EC 30F3 30C8 30B2 30F3=3356, 30EF 30C3 30C8=3357, 30 70B9=3358, 31
   70B9=3359, 32 70B9=335A, 33 70B9=335B, 34 70B9=335C, 35 70B9=335D, 36 70B9=335E, 37 70B9=335F,
   38 70B9=3360, 39 70B9=3361, 31 30 70B9=3362, 31 31 70B9=3363, 31 32 70B9=3364, 31 33 70B9=3365,
   31 34 70B9=3366, 31 35 70B9=3367, 31 36 70B9=3368, 31 37 70B9=3369, 31 38 70B9=336A, 31 39
   70B9=336B, 32 30 70B9=336C, 32 31 70B9=336D, 32 32 70B9=336E, 32 33 70B9=336F, 32 34 70B9=3370,
   68 70 61=3371, 64 61=3372, 61 75=3373, 62 61 72=3374, 6F 76=3375, 70 63=3376, 64 6D=3377, 64 6D
   32=3378, 64 6D 33=3379, 69 75=337A, 5E73 6210=337B, 662D 548C=337C, 5927 6B63=337D, 660E
   6CBB=337E, 682A 5F0F 4F1A 793E=337F, 70 61=3380 33A9, 6E 61=3381, 3BC 61=3382, 6D 61=3383, 6B
   61=3384, 6B 62=3385, 6D 62=3386 33D4, 67 62=3387, 63 61 6C=3388, 6B 63 61 6C=3389, 70 66=338A,
   6E 66=338B, 3BC 66=338C, 3BC 67=338D, 6D 67=338E, 6B 67=338F, 68 7A=3390, 6B 68 7A=3391, 6D 68
   7A=3392, 67 68 7A=3393, 74 68 7A=3394, 3BC 6C=3395, 6D 6C=3396, 64 6C=3397, 6B 6C=3398, 66
   6D=3399, 6E 6D=339A, 3BC 6D=339B, 6D 6D=339C, 63 6D=339D, 6B 6D=339E 33CE, 6D 6D 32=339F, 63 6D
   32=33A0, 6D 32=33A1, 6B 6D 32=33A2, 6D 6D 33=33A3, 63 6D 33=33A4, 6D 33=33A5, 6B 6D 33=33A6, 6D
   2215 73=33A7, 6D 2215 73 32=33A8, 6B 70 61=33AA, 6D 70 61=33AB, 67 70 61=33AC, 72 61 64=33AD,
   72 61 64 2215 73=33AE, 72 61 64 2215 73 32=33AF, 70 73=33B0, 6E 73=33B1, 3BC 73=33B2, 6D
   73=33B3, 70 76=33B4, 6E 76=33B5, 3BC 76=33B6, 6D 76=33B7 33B9 1F14B, 6B 76=33B8, 70 77=33BA, 6E
   77=33BB, 3BC 77=33BC, 6D 77=33BD 33BF, 6B 77=33BE, 6B 3C9=33C0, 6D 3C9=33C1, 62 71=33C3, 63
   63=33C4, 63 64=33C5 1F12D, 63 2215 6B 67=33C6, 64 62=33C8, 67 79=33C9, 68 61=33CA, 68 70=33CB,
   69 6E=33CC, 6B 6B=33CD, 6B 74=33CF, 6C 6D=33D0, 6C 6E=33D1, 6C 6F 67=33D2, 6C 78=33D3, 6D 69
   6C=33D5, 6D 6F 6C=33D6, 70 68=33D7, 70 70 6D=33D9, 70 72=33DA, 73 72=33DB, 73 76=33DC, 77
   62=33DD, 76 2215 6D=33DE, 61 2215 6D=33DF, 31 65E5=33E0, 32 65E5=33E1, 33 65E5=33E2, 34
   65E5=33E3, 35 65E5=33E4, 36 65E5=33E5, 37 65E5=33E6, 38 65E5=33E7, 39 65E5=33E8, 31 30
   65E5=33E9, 31 31 65E5=33EA, 31 32 65E5=33EB, 31 33 65E5=33EC, 31 34 65E5=33ED, 31 35 65E5=33EE,
   31 36 65E5=33EF, 31 37 65E5=33F0, 31 38 65E5=33F1, 31 39 65E5=33F2, 32 30 65E5=33F3, 32 31
   65E5=33F4, 32 32 65E5=33F5, 32 33 65E5=33F6, 32 34 65E5=33F7, 32 35 65E5=33F8, 32 36 65E5=33F9,
   32 37 65E5=33FA, 32 38 65E5=33FB, 32 39 65E5=33FC, 33 30 65E5=33FD, 33 31 65E5=33FE, 67 61
   6C=33FF, A641=A640, A643=A642, A645=A644, A647=A646, A649=A648, A64D=A64C, A64F=A64E, A651=A650
   1E06C, A653=A652, A655=A654, A657=A656, A659=A658, A65B=A65A, A65D=A65C, A65F=A65E, A661=A660,
   A663=A662, A665=A664, A667=A666, A669=A668, A66B=A66A, A66D=A66C, A681=A680, A683=A682,
   A685=A684, A687=A686, A689=A688 1E04A, A68B=A68A, A68D=A68C, A68F=A68E, A691=A690, A693=A692,
   A695=A694, A697=A696, A699=A698, A69B=A69A, A723=A722, A725=A724, A727=A726 AB5C, A729=A728,
   A72B=A72A, A72D=A72C, A72F=A72E, A733=A732, A735=A734, A737=A736, A739=A738, A73B=A73A,
   A73D=A73C, A73F=A73E, A741=A740, A743=A742, A745=A744, A747=A746, A749=A748, A74B=A74A,
   A74D=A74C, A74F=A74E, A751=A750, A753=A752, A755=A754, A757=A756, A759=A758, A75B=A75A,
   A75D=A75C, A75F=A75E, A761=A760, A763=A762, A765=A764, A767=A766, A769=A768, A76B=A76A,
   A76D=A76C, A76F=A76E A770, A77A=A779, A77C=A77B, 1D79=A77D, A77F=A77E, A781=A780, A783=A782,
   A785=A784, A787=A786, A78C=A78B, A791=A790, A793=A792, A797=A796, A799=A798, A79B=A79A,
   A79D=A79C, A79F=A79E, A7A1=A7A0, A7A3=A7A2, A7A5=A7A4, A7A7=A7A6, A7A9=A7A8, 26C=A7AD 1079B,
   29E=A7B0, 287=A7B1 107BB, AB53=A7B3, A7B5=A7B4, A7B7=A7B6, A7B9=A7B8, A7BB=A7BA, A7BD=A7BC,
   A7BF=A7BE, A7C1=A7C0, A7C3=A7C2, A794=A7C4, 1D8E=A7C6, A7C8=A7C7, A7CA=A7C9, 264=A7CB 10791,
   A7CD=A7CC, A7CF=A7CE, A7D1=A7D0, A7D3=A7D2, A7D5=A7D4, A7D7=A7D6, A7D9=A7D8, A7DB=A7DA,
   19B=A7DC, A7F6=A7F5, AB37=AB5D, AB52=AB5F, 28D=AB69, 13A0=AB70, 13A1=AB71, 13A2=AB72,
   13A3=AB73, 13A4=AB74, 13A5=AB75, 13A6=AB76, 13A7=AB77, 13A8=AB78, 13A9=AB79, 13AA=AB7A,
   13AB=AB7B, 13AC=AB7C, 13AD=AB7D, 13AE=AB7E, 13AF=AB7F, 13B0=AB80, 13B1=AB81, 13B2=AB82,
   13B3=AB83, 13B4=AB84, 13B5=AB85, 13B6=AB86, 13B7=AB87, 13B8=AB88, 13B9=AB89, 13BA=AB8A,
   13BB=AB8B, 13BC=AB8C, 13BD=AB8D, 13BE=AB8E, 13BF=AB8F, 13C0=AB90, 13C1=AB91, 13C2=AB92,
   13C3=AB93, 13C4=AB94, 13C5=AB95, 13C6=AB96, 13C7=AB97, 13C8=AB98, 13C9=AB99, 13CA=AB9A,
   13CB=AB9B, 13CC=AB9C, 13CD=AB9D, 13CE=AB9E, 13CF=AB9F, 13D0=ABA0, 13D1=ABA1, 13D2=ABA2,
   13D3=ABA3, 13D4=ABA4, 13D5=ABA5, 13D6=ABA6, 13D7=ABA7, 13D8=ABA8, 13D9=ABA9, 13DA=ABAA,
   13DB=ABAB, 13DC=ABAC, 13DD=ABAD, 13DE=ABAE, 13DF=ABAF, 13E0=ABB0, 13E1=ABB1, 13E2=ABB2,
   13E3=ABB3, 13E4=ABB4, 13E5=ABB5, 13E6=ABB6, 13E7=ABB7, 13E8=ABB8, 13E9=ABB9, 13EA=ABBA,
   13EB=ABBB, 13EC=ABBC, 13ED=ABBD, 13EE=ABBE, 13EF=ABBF, 8C48=F900, 66F4=F901, 8CC8=F903,
   6ED1=F904, 4E32=F905, 53E5=F906, 5951=F909, 5587=F90B, 5948=F90C, 61F6=F90D 2F8B1, 7669=F90E,
   7F85=F90F, 863F=F910, 87BA=F911, 88F8=F912, 908F=F913, 6A02=F914 F95C F9BF, 6D1B=F915,
   70D9=F916, 73DE=F917, 843D=F918, 916A=F919, 99F1=F91A, 4E82=F91B, 5375=F91C, 6B04=F91D,
   721B=F91E, 862D=F91F, 9E1E=F920, 5D50=F921, 6FEB=F922, 85CD=F923, 8964=F924, 62C9=F925,
   81D8=F926, 881F=F927, 5ECA=F928 2F88E, 6717=F929 FA92 2F8D8, 6D6A=F92A, 72FC=F92B, 90CE=F92C,
   4F86=F92D, 51B7=F92E, 52DE=F92F, 64C4=F930, 6AD3=F931, 7210=F932, 76E7=F933, 8606=F935,
   865C=F936 2F9B4, 8DEF=F937, 9732=F938, 9B6F=F939, 9DFA=F93A, 788C=F93B 2F94F, 797F=F93C,
   7DA0=F93D, 83C9=F93E, 9304=F93F, 8AD6=F941, 58DF=F942, 5F04=F943, 7C60=F944, 807E=F945,
   7262=F946, 78CA=F947, 8CC2=F948, 96F7=F949, 58D8=F94A, 5C62=F94B, 6A13=F94C, 6DDA=F94D,
   6F0F=F94E, 7D2F=F94F, 7E37=F950, 964B=F951, 52D2=F952, 808B=F953, 51DC=F954, 51CC=F955,
   7A1C=F956, 7DBE=F957, 83F1=F958, 9675=F959, 8B80=F95A, 62CF=F95B, 8AFE=F95D FABD, 4E39=F95E,
   5BE7=F95F F9AA 2F86F, 6012=F960, 7387=F961 F9DB, 7570=F962 2F938, 5317=F963 2F82B, 78FB=F964,
   4FBF=F965, 5FA9=F966, 4E0D=F967, 6CCC=F968, 6578=F969, 7D22=F96A, 53C3=F96B, 585E=F96C,
   7701=F96D, 8449=F96E, 8AAA=F96F F9A1, 6BBA=F970 FA96 2F8F5, 6C88=F972, 62FE=F973, 82E5=F974
   2F998, 63A0=F975, 7565=F976, 4EAE=F977, 5169=F978, 51C9=F979, 6881=F97A, 7CE7=F97B, 826F=F97C,
   8AD2=F97D, 91CF=F97E, 52F5=F97F, 5442=F980, 5EEC=F982, 65C5=F983, 6FFE=F984, 792A=F985,
   95AD=F986, 9A6A=F987, 9E97=F988, 9ECE=F989, 66C6=F98B, 6B77=F98C, 8F62=F98D, 5E74=F98E,
   6190=F98F, 6200=F990, 649A=F991, 6F23=F992, 7149=F993, 7489=F994, 79CA=F995, 7DF4=F996 FA57
   FAB0, 806F=F997, 8F26=F998, 84EE=F999, 9023=F99A, 934A=F99B, 5217=F99C, 52A3=F99D, 54BD=F99E,
   70C8=F99F, 88C2=F9A0, 5EC9=F9A2, 5FF5=F9A3, 637B=F9A4, 6BAE=F9A5, 7C3E=F9A6, 7375=F9A7,
   4EE4=F9A8, 56F9=F9A9, 5DBA=F9AB, 601C=F9AC, 73B2=F9AD, 7469=F9AE, 7F9A=F9AF, 8046=F9B0,
   9234=F9B1, 96F6=F9B2, 9748=F9B3, 9818=F9B4, 4F8B=F9B5, 79AE=F9B6, 91B4=F9B7, 96B8=F9B8,
   60E1=F9B9, 4E86=F9BA, 50DA=F9BB, 5BEE=F9BC, 5C3F=F9BD, 6599=F9BE 1F21B, 71CE=F9C0, 7642=F9C1,
   84FC=F9C2, 907C=F9C3, 6688=F9C5, 962E=F9C6, 5289=F9C7, 677B=F9C8, 67F3=F9C9, 6D41=F9CA FA97
   2F902, 6E9C=F9CB, 7409=F9CC, 7559=F9CD, 786B=F9CE, 7D10=F9CF, 985E=F9D0, 622E=F9D2, 9678=F9D3,
   502B=F9D4, 5D19=F9D5, 6DEA=F9D6, 8F2A=F9D7, 5F8B=F9D8, 6144=F9D9, 6817=F9DA, 9686=F9DC,
   5229=F9DD, 540F=F9DE, 5C65=F9DF, 6613=F9E0, 674E=F9E1, 68A8=F9E2, 6CE5=F9E3, 7406=F9E4,
   75E2=F9E5, 7F79=F9E6, 88CF=F9E7, 88E1=F9E8, 96E2=F9EA, 533F=F9EB, 6EBA=F9EC, 541D=F9ED,
   71D0=F9EE, 7498=F9EF, 85FA=F9F0, 96A3=F9F1, 9C57=F9F2, 9E9F=F9F3, 6797=F9F4, 6DCB=F9F5,
   81E8=F9F6, 7B20=F9F8, 7C92=F9F9, 72C0=F9FA, 7099=F9FB, 8B58=F9FC, 4EC0=F9FD, 8336=F9FE,
   523A=F9FF, 5207=FA00 2F850, 5EA6=FA01, 62D3=FA02, 7CD6=FA03, 5B85=FA04, 6D1E=FA05, 66B4=FA06,
   8F3B=FA07, 964D=FA09, 5ED3=FA0B, 5140=FA0C, 55C0=FA0D, 585A=FA10 FA7C, 6674=FA12 FA91,
   51DE=FA15, 732A=FA16 FAA0, 76CA=FA17 FAA6, 793C=FA18, 795E=FA19, 7965=FA1A, 798F=FA1B 2F956,
   9756=FA1C FAC8, 7CBE=FA1D, 8612=FA20, 8AF8=FA22 FABA, 9038=FA25 FA67, 90FD=FA26, 98EF=FA2A,
   98FC=FA2B, 9928=FA2C, 9DB4=FA2D, 90DE=FA2E, 96B7=FA2F, 4FAE=FA30 2F805, 50E7=FA31 2F80A,
   514D=FA32 2F80E, 52C9=FA33 2F826, 52E4=FA34 2F827, 5351=FA35 2F82D, 559D=FA36 FA78, 5606=FA37
   2F84C, 5668=FA38, 5840=FA39, 58A8=FA3A, 5C64=FA3B, 6094=FA3D 2F8A3, 6168=FA3E, 618E=FA3F FA89
   2F8AB, 61F2=FA40 FA8B 2F8B0, 654F=FA41 2F8C8, 65E2=FA42, 6691=FA43 2F8CF, 6885=FA44 2F8E2,
   6D77=FA45 2F901, 6E1A=FA46, 6F22=FA47 FA9A, 716E=FA48 FA9C, 722B=FA49, 7422=FA4A, 7891=FA4B,
   7949=FA4D, 7948=FA4E, 7950=FA4F, 7956=FA50 2F953, 798D=FA52, 798E=FA53, 7A40=FA54 2F959,
   7A81=FA55, 7BC0=FA56 FAAD, 7E09=FA58, 7E41=FA59, 7F72=FA5A, 8005=FA5B FAB2 2F97A, 81ED=FA5C,
   8279=FA5D-FA5E, 8457=FA5F 2F99F, 8910=FA60, 8996=FA61 FAB8, 8B01=FA62 FABC, 8B39=FA63 FABF,
   8CD3=FA64, 8D08=FA65 FAC1, 8FB6=FA66, 96E3=FA68 FAC7, 97FF=FA69 FACA, 983B=FA6A FACC,
   6075=FA6B, 242EE=FA6C, 8218=FA6D, 4E26=FA70, 51B5=FA71 2F81B, 5168=FA72, 4F80=FA73, 5145=FA74,
   5180=FA75, 52C7=FA76 2F825, 52FA=FA77 2F828, 5555=FA79, 5599=FA7A 2F847, 55E2=FA7B, 58B3=FA7D,
   5944=FA7E, 5954=FA7F, 5A62=FA80, 5B28=FA81, 5ED2=FA82, 5ED9=FA83, 5F69=FA84, 5FAD=FA85,
   60D8=FA86, 614E=FA87 2F8A8, 6108=FA88, 6160=FA8A, 6234=FA8C, 63C4=FA8D, 641C=FA8E, 6452=FA8F,
   6556=FA90, 671B=FA93 2F8D9, 6756=FA94, 6EDB=FA98, 6ECB=FA99 2F90B, 701E=FA9B 2F914, 77A7=FA9D,
   7235=FA9E 2F921, 72AF=FA9F, 7471=FAA1 2F930, 7506=FAA2, 753B=FAA3, 761D=FAA4, 761F=FAA5,
   76DB=FAA7, 76F4=FAA8 2F940, 774A=FAA9 2F948, 7740=FAAA, 78CC=FAAB 2F950, 7AB1=FAAC, 7C7B=FAAE,
   7D5B=FAAF, 7F3E=FAB1, 8352=FAB3, 83EF=FAB4, 8779=FAB5 2F9BB, 8941=FAB6, 8986=FAB7, 8ABF=FAB9,
   8ACB=FABB, 8AED=FABE 2F9D0, 8B8A=FAC0 2F9D1, 8F38=FAC2 2F9DF, 9072=FAC3, 9199=FAC4, 9276=FAC5,
   967C=FAC6, 97DB=FAC9, 980B=FACB 2F9FE-2F9FF, 9B12=FACD 2FA0A, 2284A=FACF, 22844=FAD0,
   233D5=FAD1, 3B9D=FAD2 2F8E7, 4018=FAD3, 4039=FAD4 2F949, 25249=FAD5, 25CD0=FAD6, 27ED3=FAD7,
   9F43=FAD8, 9F8E=FAD9, 66 66=FB00, 66 69=FB01, 66 6C=FB02, 66 66 69=FB03, 66 66 6C=FB04, 73
   74=FB05-FB06, 574 576=FB13, 574 565=FB14, 574 56B=FB15, 57E 576=FB16, 574 56D=FB17, 5D9
   5B4=FB1D, 5F2 5B7=FB1F, 5E2=FB20, 5D4=FB23, 5DB=FB24, 5DC=FB25, 5DD=FB26, 5E8=FB27, 5EA=FB28,
   5E9 5C1=FB2A, 5E9 5C2=FB2B, 5E9 5BC 5C1=FB2C, 5E9 5BC 5C2=FB2D, 5D0 5B7=FB2E, 5D0 5B8=FB2F, 5D0
   5BC=FB30, 5D1 5BC=FB31, 5D2 5BC=FB32, 5D3 5BC=FB33, 5D4 5BC=FB34, 5D5 5BC=FB35, 5D6 5BC=FB36,
   5D8 5BC=FB38, 5D9 5BC=FB39, 5DA 5BC=FB3A, 5DB 5BC=FB3B, 5DC 5BC=FB3C, 5DE 5BC=FB3E, 5E0
   5BC=FB40, 5E1 5BC=FB41, 5E3 5BC=FB43, 5E4 5BC=FB44, 5E6 5BC=FB46, 5E7 5BC=FB47, 5E8 5BC=FB48,
   5E9 5BC=FB49, 5EA 5BC=FB4A, 5D5 5B9=FB4B, 5D1 5BF=FB4C, 5DB 5BF=FB4D, 5E4 5BF=FB4E, 5D0
   5DC=FB4F, 671=FB50-FB51, 67B=FB52-FB55, 67E=FB56-FB59, 680=FB5A-FB5D, 67A=FB5E-FB61,
   67F=FB62-FB65, 679=FB66-FB69, 6A4=FB6A-FB6D, 6A6=FB6E-FB71, 684=FB72-FB75, 683=FB76-FB79,
   686=FB7A-FB7D, 687=FB7E-FB81, 68D=FB82-FB83, 68C=FB84-FB85, 68E=FB86-FB87, 688=FB88-FB89,
   698=FB8A-FB8B, 691=FB8C-FB8D, 6A9=FB8E-FB91, 6AF=FB92-FB95, 6B3=FB96-FB99, 6B1=FB9A-FB9D,
   6BA=FB9E-FB9F 1EE1D 1EE5D, 6BB=FBA0-FBA3, 6C0=FBA4-FBA5, 6C1=FBA6-FBA9, 6BE=FBAA-FBAD,
   6D2=FBAE-FBAF, 6D3=FBB0-FBB1, 6AD=FBD3-FBD6, 6C7=FBD7-FBD8, 6C6=FBD9-FBDA, 6C8=FBDB-FBDC,
   6CB=FBDE-FBDF, 6C5=FBE0-FBE1, 6C9=FBE2-FBE3, 6D0=FBE4-FBE7, 649=FBE8-FBE9 FEEF-FEF0, 626
   627=FBEA-FBEB, 626 6D5=FBEC-FBED, 626 648=FBEE-FBEF, 626 6C7=FBF0-FBF1, 626 6C6=FBF2-FBF3, 626
   6C8=FBF4-FBF5, 626 6D0=FBF6-FBF8, 626 649=FBF9-FBFB FC03 FC68, 6CC=FBFC-FBFF, 626 62C=FC00
   FC97, 626 62D=FC01 FC98, 626 645=FC02 FC66 FC9A FCDF, 626 64A=FC04 FC69, 628 62C=FC05 FC9C, 628
   62D=FC06 FC9D, 628 62E=FC07 FC9E, 628 645=FC08 FC6C FC9F FCE1, 628 649=FC09 FC6E, 628 64A=FC0A
   FC6F, 62A 62C=FC0B FCA1, 62A 62D=FC0C FCA2, 62A 62E=FC0D FCA3, 62A 645=FC0E FC72 FCA4 FCE3, 62A
   649=FC0F FC74, 62A 64A=FC10 FC75, 62B 62C=FC11, 62B 645=FC12 FC78 FCA6 FCE5, 62B 649=FC13 FC7A,
   62B 64A=FC14 FC7B, 62C 62D=FC15 FCA7, 62C 645=FC16 FCA8, 62D 62C=FC17 FCA9, 62D 645=FC18 FCAA,
   62E 62C=FC19 FCAB, 62E 62D=FC1A, 62E 645=FC1B FCAC, 633 62C=FC1C FCAD FD34, 633 62D=FC1D FCAE
   FD35, 633 62E=FC1E FCAF FD36, 633 645=FC1F FCB0 FCE7, 635 62D=FC20 FCB1, 635 645=FC21 FCB3, 636
   62C=FC22 FCB4, 636 62D=FC23 FCB5, 636 62E=FC24 FCB6, 636 645=FC25 FCB7, 637 62D=FC26 FCB8, 637
   645=FC27 FD33 FD3A, 638 645=FC28 FCB9 FD3B, 639 62C=FC29 FCBA, 639 645=FC2A FCBB, 63A 62C=FC2B
   FCBC, 63A 645=FC2C FCBD, 641 62C=FC2D FCBE, 641 62D=FC2E FCBF, 641 62E=FC2F FCC0, 641 645=FC30
   FCC1, 641 649=FC31 FC7C, 641 64A=FC32 FC7D, 642 62D=FC33 FCC2, 642 645=FC34 FCC3, 642 649=FC35
   FC7E, 642 64A=FC36 FC7F, 643 627=FC37 FC80, 643 62C=FC38 FCC4, 643 62D=FC39 FCC5, 643 62E=FC3A
   FCC6, 643 644=FC3B FC81 FCC7 FCEB, 643 645=FC3C FC82 FCC8 FCEC, 643 649=FC3D FC83, 643 64A=FC3E
   FC84, 644 62C=FC3F FCC9, 644 62D=FC40 FCCA, 644 62E=FC41 FCCB, 644 645=FC42 FC85 FCCC FCED, 644
   649=FC43 FC86, 644 64A=FC44 FC87, 645 62C=FC45 FCCE, 645 62D=FC46 FCCF, 645 62E=FC47 FCD0, 645
   645=FC48 FC89 FCD1, 645 649=FC49, 645 64A=FC4A, 646 62C=FC4B FCD2, 646 62D=FC4C FCD3, 646
   62E=FC4D FCD4, 646 645=FC4E FC8C FCD5 FCEE, 646 649=FC4F FC8E, 646 64A=FC50 FC8F, 647 62C=FC51
   FCD7, 647 645=FC52 FCD8, 647 649=FC53, 647 64A=FC54, 64A 62C=FC55 FCDA, 64A 62D=FC56 FCDB, 64A
   62E=FC57 FCDC, 64A 645=FC58 FC93 FCDD FCF0, 64A 649=FC59 FC95, 64A 64A=FC5A FC96, 630 670=FC5B,
   631 670=FC5C, 649 670=FC5D FC90, 20 64C 651=FC5E, 20 64D 651=FC5F, 20 64E 651=FC60, 20 64F
   651=FC61, 20 650 651=FC62, 20 651 670=FC63, 626 631=FC64, 626 632=FC65, 626 646=FC67, 628
   631=FC6A, 628 632=FC6B, 628 646=FC6D, 62A 631=FC70, 62A 632=FC71, 62A 646=FC73, 62B 631=FC76,
   62B 632=FC77, 62B 646=FC79, 645 627=FC88, 646 631=FC8A, 646 632=FC8B, 646 646=FC8D, 64A
   631=FC91, 64A 632=FC92, 64A 646=FC94, 626 62E=FC99, 626 647=FC9B FCE0, 628 647=FCA0 FCE2, 62A
   647=FCA5 FCE4, 635 62E=FCB2, 644 647=FCCD, 646 647=FCD6 FCEF, 647 670=FCD9, 64A 647=FCDE FCF1,
   62B 647=FCE6, 633 647=FCE8 FD31, 634 645=FCE9 FD0C FD28 FD30, 634 647=FCEA FD32, 640 64E
   651=FCF2, 640 64F 651=FCF3, 640 650 651=FCF4, 637 649=FCF5 FD11, 637 64A=FCF6 FD12, 639
   649=FCF7 FD13, 639 64A=FCF8 FD14, 63A 649=FCF9 FD15, 63A 64A=FCFA FD16, 633 649=FCFB FD17, 633
   64A=FCFC FD18, 634 649=FCFD FD19, 634 64A=FCFE FD1A, 62D 649=FCFF FD1B, 62D 64A=FD00 FD1C, 62C
   649=FD01 FD1D, 62C 64A=FD02 FD1E, 62E 649=FD03 FD1F, 62E 64A=FD04 FD20, 635 649=FD05 FD21, 635
   64A=FD06 FD22, 636 649=FD07 FD23, 636 64A=FD08 FD24, 634 62C=FD09 FD25 FD2D FD37, 634 62D=FD0A
   FD26 FD2E FD38, 634 62E=FD0B FD27 FD2F FD39, 634 631=FD0D FD29, 633 631=FD0E FD2A, 635 631=FD0F
   FD2B, 636 631=FD10 FD2C, 627 64B=FD3C-FD3D, 62A 62C 645=FD50, 62A 62D 62C=FD51-FD52, 62A 62D
   645=FD53, 62A 62E 645=FD54, 62A 645 62C=FD55, 62A 645 62D=FD56, 62A 645 62E=FD57, 62C 645
   62D=FD58-FD59, 62D 645 64A=FD5A, 62D 645 649=FD5B, 633 62D 62C=FD5C, 633 62C 62D=FD5D, 633 62C
   649=FD5E, 633 645 62D=FD5F-FD60, 633 645 62C=FD61, 633 645 645=FD62-FD63, 635 62D
   62D=FD64-FD65, 635 645 645=FD66 FDC5, 634 62D 645=FD67-FD68, 634 62C 64A=FD69, 634 645
   62E=FD6A-FD6B, 634 645 645=FD6C-FD6D, 636 62D 649=FD6E, 636 62E 645=FD6F-FD70, 637 645
   62D=FD71-FD72, 637 645 645=FD73, 637 645 64A=FD74, 639 62C 645=FD75 FDC4, 639 645
   645=FD76-FD77, 639 645 649=FD78, 63A 645 645=FD79, 63A 645 64A=FD7A, 63A 645 649=FD7B, 641 62E
   645=FD7C-FD7D, 642 645 62D=FD7E FDB4, 642 645 645=FD7F, 644 62D 645=FD80 FDB5, 644 62D
   64A=FD81, 644 62D 649=FD82, 644 62C 62C=FD83-FD84, 644 62E 645=FD85-FD86, 644 645
   62D=FD87-FD88, 645 62D 62C=FD89, 645 62D 645=FD8A, 645 62D 64A=FD8B, 645 62C 62D=FD8C, 645 62C
   645=FD8D, 645 62E 62C=FD8E, 645 62E 645=FD8F, 645 62C 62E=FD92, 647 645 62C=FD93, 647 645
   645=FD94, 646 62D 645=FD95, 646 62D 649=FD96, 646 62C 645=FD97-FD98, 646 62C 649=FD99, 646 645
   64A=FD9A, 646 645 649=FD9B, 64A 645 645=FD9C-FD9D, 628 62E 64A=FD9E, 62A 62C 64A=FD9F, 62A 62C
   649=FDA0, 62A 62E 64A=FDA1, 62A 62E 649=FDA2, 62A 645 64A=FDA3, 62A 645 649=FDA4, 62C 645
   64A=FDA5, 62C 62D 649=FDA6, 62C 645 649=FDA7, 633 62E 649=FDA8, 635 62D 64A=FDA9, 634 62D
   64A=FDAA, 636 62D 64A=FDAB, 644 62C 64A=FDAC, 644 645 64A=FDAD, 64A 62D 64A=FDAE, 64A 62C
   64A=FDAF, 64A 645 64A=FDB0, 645 645 64A=FDB1, 642 645 64A=FDB2, 646 62D 64A=FDB3, 639 645
   64A=FDB6, 643 645 64A=FDB7, 646 62C 62D=FDB8 FDBD, 645 62E 64A=FDB9, 644 62C 645=FDBA FDBC, 643
   645 645=FDBB FDC3, 62C 62D 64A=FDBE, 62D 62C 64A=FDBF, 645 62C 64A=FDC0, 641 645 64A=FDC1, 628
   62D 64A=FDC2, 633 62E 64A=FDC6, 646 62C 64A=FDC7, 635 644 6D2=FDF0, 642 644 6D2=FDF1, 627 644
   644 647=FDF2, 627 643 628 631=FDF3, 645 62D 645 62F=FDF4, 635 644 639 645=FDF5, 631 633 648
   644=FDF6, 639 644 64A 647=FDF7, 648 633 644 645=FDF8, 635 644 649=FDF9, 635 644 649 20 627 644
   644 647 20 639 644 64A 647 20 648 633 644 645=FDFA, 62C 644 20 62C 644 627 644 647=FDFB, 631
   6CC 627 644=FDFC, 2C=FE10 FE50 FF0C, 3001=FE11 FE51 FF64, 3A=FE13 FE55 FF1A, 21=FE15 FE57 FF01,
   3F=FE16 FE56 FF1F, 3016=FE17, 3017=FE18, 2014=FE31 FE58, 2013=FE32, 5F=FE33-FE34 FE4D-FE4F
   FF3F, 7B=FE37 FE5B FF5B, 7D=FE38 FE5C FF5D, 3014=FE39 FE5D, 3015=FE3A FE5E, 3010=FE3B,
   3011=FE3C, 300A=FE3D, 300B=FE3E, 300C=FE41 FF62, 300D=FE42 FF63, 300E=FE43, 300F=FE44, 5B=FE47
   FF3B, 5D=FE48 FF3D, 23=FE5F FF03, 26=FE60 FF06, 2A=FE61 FF0A, 2D=FE63 FF0D, 3C=FE64 FF1C,
   3E=FE65 FF1E, 5C=FE68 FF3C, 24=FE69 FF04, 25=FE6A FF05, 40=FE6B FF20, 20 64B=FE70, 640
   64B=FE71, 20 64C=FE72, 20 64D=FE74, 20 64E=FE76, 640 64E=FE77, 20 64F=FE78, 640 64F=FE79, 20
   650=FE7A, 640 650=FE7B, 20 651=FE7C, 640 651=FE7D, 20 652=FE7E, 640 652=FE7F, 621=FE80,
   622=FE81-FE82, 623=FE83-FE84, 624=FE85-FE86, 625=FE87-FE88, 626=FE89-FE8C, 627=FE8D-FE8E 1EE00
   1EE80, 628=FE8F-FE92 1EE01 1EE21 1EE61 1EE81 1EEA1, 629=FE93-FE94, 62A=FE95-FE98 1EE15 1EE35
   1EE75 1EE95 1EEB5, 62B=FE99-FE9C 1EE16 1EE36 1EE76 1EE96 1EEB6, 62C=FE9D-FEA0 1EE02 1EE22 1EE42
   1EE62 1EE82 1EEA2, 62D=FEA1-FEA4 1EE07 1EE27 1EE47 1EE67 1EE87 1EEA7, 62E=FEA5-FEA8 1EE17 1EE37
   1EE57 1EE77 1EE97 1EEB7, 62F=FEA9-FEAA 1EE03 1EE83 1EEA3, 630=FEAB-FEAC 1EE18 1EE98 1EEB8,
   631=FEAD-FEAE 1EE13 1EE93 1EEB3, 632=FEAF-FEB0 1EE06 1EE86 1EEA6, 633=FEB1-FEB4 1EE0E 1EE2E
   1EE4E 1EE6E 1EE8E 1EEAE, 634=FEB5-FEB8 1EE14 1EE34 1EE54 1EE74 1EE94 1EEB4, 635=FEB9-FEBC 1EE11
   1EE31 1EE51 1EE71 1EE91 1EEB1, 636=FEBD-FEC0 1EE19 1EE39 1EE59 1EE79 1EE99 1EEB9, 637=FEC1-FEC4
   1EE08 1EE68 1EE88 1EEA8, 638=FEC5-FEC8 1EE1A 1EE7A 1EE9A 1EEBA, 639=FEC9-FECC 1EE0F 1EE2F 1EE4F
   1EE6F 1EE8F 1EEAF, 63A=FECD-FED0 1EE1B 1EE3B 1EE5B 1EE7B 1EE9B 1EEBB, 641=FED1-FED4 1EE10 1EE30
   1EE70 1EE90 1EEB0, 642=FED5-FED8 1EE12 1EE32 1EE52 1EE72 1EE92 1EEB2, 643=FED9-FEDC 1EE0A 1EE2A
   1EE6A, 644=FEDD-FEE0 1EE0B 1EE2B 1EE4B 1EE8B 1EEAB, 645=FEE1-FEE4 1EE0C 1EE2C 1EE6C 1EE8C
   1EEAC, 646=FEE5-FEE8 1EE0D 1EE2D 1EE4D 1EE6D 1EE8D 1EEAD, 647=FEE9-FEEC 1EE24 1EE64 1EE84,
   648=FEED-FEEE 1EE05 1EE85 1EEA5, 64A=FEF1-FEF4 1EE09 1EE29 1EE49 1EE69 1EE89 1EEA9, 644
   622=FEF5-FEF6, 644 623=FEF7-FEF8, 644 625=FEF9-FEFA, 644 627=FEFB-FEFC, 22=FF02, 27=FF07,
   2F=FF0F, 5E=FF3E, 7C=FF5C, 7E=FF5E, 2985=FF5F, 2986=FF60, 30FB=FF65, 30A1=FF67, 30A3=FF68,
   30A5=FF69, 30A7=FF6A, 30A9=FF6B, 30E3=FF6C, 30E5=FF6D, 30E7=FF6E, 30C3=FF6F, 30FC=FF70,
   30F3=FF9D, 3099=FF9E, 309A=FF9F, A2=FFE0, A3=FFE1, AC=FFE2, A6=FFE4, A5=FFE5, 20A9=FFE6,
   2502=FFE8, 2190=FFE9, 2191=FFEA, 2192=FFEB, 2193=FFEC, 25A0=FFED, 25CB=FFEE, 10428=10400,
   10429=10401, 1042A=10402, 1042B=10403, 1042C=10404, 1042D=10405, 1042E=10406, 1042F=10407,
   10430=10408, 10431=10409, 10432=1040A, 10433=1040B, 10434=1040C, 10435=1040D, 10436=1040E,
   10437=1040F, 10438=10410, 10439=10411, 1043A=10412, 1043B=10413, 1043C=10414, 1043D=10415,
   1043E=10416, 1043F=10417, 10440=10418, 10441=10419, 10442=1041A, 10443=1041B, 10444=1041C,
   10445=1041D, 10446=1041E, 10447=1041F, 10448=10420, 10449=10421, 1044A=10422, 1044B=10423,
   1044C=10424, 1044D=10425, 1044E=10426, 1044F=10427, 104D8=104B0, 104D9=104B1, 104DA=104B2,
   104DB=104B3, 104DC=104B4, 104DD=104B5, 104DE=104B6, 104DF=104B7, 104E0=104B8, 104E1=104B9,
   104E2=104BA, 104E3=104BB, 104E4=104BC, 104E5=104BD, 104E6=104BE, 104E7=104BF, 104E8=104C0,
   104E9=104C1, 104EA=104C2, 104EB=104C3, 104EC=104C4, 104ED=104C5, 104EE=104C6, 104EF=104C7,
   104F0=104C8, 104F1=104C9, 104F2=104CA, 104F3=104CB, 104F4=104CC, 104F5=104CD, 104F6=104CE,
   104F7=104CF, 104F8=104D0, 104F9=104D1, 104FA=104D2, 104FB=104D3, 10597=10570, 10598=10571,
   10599=10572, 1059A=10573, 1059B=10574, 1059C=10575, 1059D=10576, 1059E=10577, 1059F=10578,
   105A0=10579, 105A1=1057A, 105A3=1057C, 105A4=1057D, 105A5=1057E, 105A6=1057F, 105A7=10580,
   105A8=10581, 105A9=10582, 105AA=10583, 105AB=10584, 105AC=10585, 105AD=10586, 105AE=10587,
   105AF=10588, 105B0=10589, 105B1=1058A, 105B3=1058C, 105B4=1058D, 105B5=1058E, 105B6=1058F,
   105B7=10590, 105B8=10591, 105B9=10592, 105BB=10594, 105BC=10595, 2D0=10781, 2D1=10782,
   299=10784, 2A3=10787, AB66=10788, 2A5=10789, 2A4=1078A, 1D91=1078D, 258=1078E, 25E=1078F,
   2A9=10790, 262=10792, 29B=10794, 29C=10796, 267=10797, 284=10798, 2AA=10799, 2AB=1079A,
   1DF04=1079C, A78E=1079D, 26E=1079E, 1DF05=1079F, 28E=107A0, 1DF06=107A1, 276=107A3, 277=107A4,
   27A=107A6, 1DF08=107A7, 27E=107A9, 2A8=107AB, 2A6=107AC, AB67=107AD, 2A7=107AE, 2C71=107B0,
   28F=107B2, 2A1=107B3, 2A2=107B4, 298=107B5, 1C0=107B6, 1C1=107B7, 1C2=107B8, 1DF0A=107B9,
   1DF1E=107BA, 10CC0=10C80, 10CC1=10C81, 10CC2=10C82, 10CC3=10C83, 10CC4=10C84, 10CC5=10C85,
   10CC6=10C86, 10CC7=10C87, 10CC8=10C88, 10CC9=10C89, 10CCA=10C8A, 10CCB=10C8B, 10CCC=10C8C,
   10CCD=10C8D, 10CCE=10C8E, 10CCF=10C8F, 10CD0=10C90, 10CD1=10C91, 10CD2=10C92, 10CD3=10C93,
   10CD4=10C94, 10CD5=10C95, 10CD6=10C96, 10CD7=10C97, 10CD8=10C98, 10CD9=10C99, 10CDA=10C9A,
   10CDB=10C9B, 10CDC=10C9C, 10CDD=10C9D, 10CDE=10C9E, 10CDF=10C9F, 10CE0=10CA0, 10CE1=10CA1,
   10CE2=10CA2, 10CE3=10CA3, 10CE4=10CA4, 10CE5=10CA5, 10CE6=10CA6, 10CE7=10CA7, 10CE8=10CA8,
   10CE9=10CA9, 10CEA=10CAA, 10CEB=10CAB, 10CEC=10CAC, 10CED=10CAD, 10CEE=10CAE, 10CEF=10CAF,
   10CF0=10CB0, 10CF1=10CB1, 10CF2=10CB2, 10D70=10D50, 10D71=10D51, 10D72=10D52, 10D73=10D53,
   10D74=10D54, 10D75=10D55, 10D76=10D56, 10D77=10D57, 10D78=10D58, 10D79=10D59, 10D7A=10D5A,
   10D7B=10D5B, 10D7C=10D5C, 10D7D=10D5D, 10D7E=10D5E, 10D7F=10D5F, 10D80=10D60, 10D81=10D61,
   10D82=10D62, 10D83=10D63, 10D84=10D64, 10D85=10D65, 118C0=118A0, 118C1=118A1, 118C2=118A2,
   118C3=118A3, 118C4=118A4, 118C5=118A5, 118C6=118A6, 118C7=118A7, 118C8=118A8, 118C9=118A9,
   118CA=118AA, 118CB=118AB, 118CC=118AC, 118CD=118AD, 118CE=118AE, 118CF=118AF, 118D0=118B0,
   118D1=118B1, 118D2=118B2, 118D3=118B3, 118D4=118B4, 118D5=118B5, 118D6=118B6, 118D7=118B7,
   118D8=118B8, 118D9=118B9, 118DA=118BA, 118DB=118BB, 118DC=118BC, 118DD=118BD, 118DE=118BE,
   118DF=118BF, 16E60=16E40, 16E61=16E41, 16E62=16E42, 16E63=16E43, 16E64=16E44, 16E65=16E45,
   16E66=16E46, 16E67=16E47, 16E68=16E48, 16E69=16E49, 16E6A=16E4A, 16E6B=16E4B, 16E6C=16E4C,
   16E6D=16E4D, 16E6E=16E4E, 16E6F=16E4F, 16E70=16E50, 16E71=16E51, 16E72=16E52, 16E73=16E53,
   16E74=16E54, 16E75=16E55, 16E76=16E56, 16E77=16E57, 16E78=16E58, 16E79=16E59, 16E7A=16E5A,
   16E7B=16E5B, 16E7C=16E5C, 16E7D=16E5D, 16E7E=16E5E, 16E7F=16E5F, 16EBB=16EA0, 16EBC=16EA1,
   16EBD=16EA2, 16EBE=16EA3, 16EBF=16EA4, 16EC0=16EA5, 16EC1=16EA6, 16EC2=16EA7, 16EC3=16EA8,
   16EC4=16EA9, 16EC5=16EAA, 16EC6=16EAB, 16EC7=16EAC, 16EC8=16EAD, 16EC9=16EAE, 16ECA=16EAF,
   16ECB=16EB0, 16ECC=16EB1, 16ECD=16EB2, 16ECE=16EB3, 16ECF=16EB4, 16ED0=16EB5, 16ED1=16EB6,
   16ED2=16EB7, 16ED3=16EB8, 1D157 1D165=1D15E, 1D158 1D165=1D15F, 1D158 1D165 1D16E=1D160, 1D158
   1D165 1D16F=1D161, 1D158 1D165 1D170=1D162, 1D158 1D165 1D171=1D163, 1D158 1D165 1D172=1D164,
   1D1B9 1D165=1D1BB, 1D1BA 1D165=1D1BC, 1D1B9 1D165 1D16E=1D1BD, 1D1BA 1D165 1D16E=1D1BE, 1D1B9
   1D165 1D16F=1D1BF, 1D1BA 1D165 1D16F=1D1C0, 131=1D6A4, 237=1D6A5, 2207=1D6C1 1D6FB 1D735 1D76F
   1D7A9, 2202=1D6DB 1D715 1D74F 1D789 1D7C3, 1E922=1E900, 1E923=1E901, 1E924=1E902, 1E925=1E903,
   1E926=1E904, 1E927=1E905, 1E928=1E906, 1E929=1E907, 1E92A=1E908, 1E92B=1E909, 1E92C=1E90A,
   1E92D=1E90B, 1E92E=1E90C, 1E92F=1E90D, 1E930=1E90E, 1E931=1E90F, 1E932=1E910, 1E933=1E911,
   1E934=1E912, 1E935=1E913, 1E936=1E914, 1E937=1E915, 1E938=1E916, 1E939=1E917, 1E93A=1E918,
   1E93B=1E919, 1E93C=1E91A, 1E93D=1E91B, 1E93E=1E91C, 1E93F=1E91D, 1E940=1E91E, 1E941=1E91F,
   1E942=1E920, 1E943=1E921, 66E=1EE1C 1EE7C, 6A1=1EE1E 1EE7E, 66F=1EE1F 1EE5F, 30 2C=1F101, 31
   2C=1F102, 32 2C=1F103, 33 2C=1F104, 34 2C=1F105, 35 2C=1F106, 36 2C=1F107, 37 2C=1F108, 38
   2C=1F109, 39 2C=1F10A, 3014 73 3015=1F12A, 77 7A=1F12E, 68 76=1F14A, 73 64=1F14C, 73 73=1F14D,
   70 70 76=1F14E, 77 63=1F14F, 6D 63=1F16A, 6D 64=1F16B, 6D 72=1F16C, 64 6A=1F190, 307B
   304B=1F200, 30B3 30B3=1F201, 5B57=1F211, 53CC=1F212, 30C7=1F213, 591A=1F215 2F85D, 89E3=1F216,
   4EA4=1F218, 6620=1F219, 7121=1F21A, 524D=1F21C, 5F8C=1F21D, 518D=1F21E 2F815, 65B0=1F21F,
   521D=1F220, 7D42=1F221, 8CA9=1F223, 58F0=1F224, 5439=1F225, 6F14=1F226, 6295=1F227, 6355=1F228,
   904A=1F22B, 6307=1F22F, 6253=1F231, 7981=1F232, 7A7A=1F233, 5408=1F234, 6E80=1F235, 7533=1F238,
   5272=1F239 2F822, 55B6=1F23A, 914D=1F23B, 3014 672C 3015=1F240, 3014 4E09 3015=1F241, 3014 4E8C
   3015=1F242, 3014 5B89 3015=1F243, 3014 70B9 3015=1F244, 3014 6253 3015=1F245, 3014 76D7
   3015=1F246, 3014 52DD 3015=1F247, 3014 6557 3015=1F248, 5F97=1F250, 53EF=1F251, 4E3D=2F800,
   4E38=2F801, 4E41=2F802, 20122=2F803, 4F60=2F804, 4FBB=2F806, 5002=2F807, 507A=2F808,
   5099=2F809, 50CF=2F80B, 349E=2F80C, 2063A=2F80D, 5154=2F80F, 5164=2F810, 5177=2F811,
   2051C=2F812, 34B9=2F813, 5167=2F814, 2054B=2F816, 5197=2F817, 51A4=2F818, 4ECC=2F819,
   51AC=2F81A, 291DF=2F81C, 5203=2F81E, 34DF=2F81F, 523B=2F820, 5246=2F821, 5277=2F823,
   3515=2F824, 5305=2F829, 5306=2F82A, 5349=2F82C, 535A=2F82E, 5373=2F82F, 537D=2F830,
   537F=2F831-2F833, 20A2C=2F834, 7070=2F835, 53CA=2F836, 53DF=2F837, 20B63=2F838, 53EB=2F839,
   53F1=2F83A, 5406=2F83B, 549E=2F83C, 5438=2F83D, 5448=2F83E, 5468=2F83F, 54A2=2F840, 54F6=2F841,
   5510=2F842, 5553=2F843, 5563=2F844, 5584=2F845-2F846, 55AB=2F848, 55B3=2F849, 55C2=2F84A,
   5716=2F84B, 5717=2F84D, 5651=2F84E, 5674=2F84F, 58EE=2F851, 57CE=2F852, 57F4=2F853, 580D=2F854,
   578B=2F855, 5832=2F856, 5831=2F857, 58AC=2F858, 214E4=2F859, 58F2=2F85A, 58F7=2F85B,
   5906=2F85C, 5922=2F85E, 5962=2F85F, 216A8=2F860, 216EA=2F861, 59EC=2F862, 5A1B=2F863,
   5A27=2F864, 59D8=2F865, 5A66=2F866, 36EE=2F867, 36FC=2F868, 5B08=2F869, 5B3E=2F86A-2F86B,
   219C8=2F86C, 5BC3=2F86D, 5BD8=2F86E, 5BF3=2F870, 21B18=2F871, 5BFF=2F872, 5C06=2F873,
   5F53=2F874, 3781=2F876, 5C60=2F877, 5CC0=2F879, 5C8D=2F87A, 21DE4=2F87B, 5D43=2F87C,
   21DE6=2F87D, 5D6E=2F87E, 5D6B=2F87F, 5D7C=2F880, 5DE1=2F881, 5DE2=2F882, 382F=2F883,
   5DFD=2F884, 5E28=2F885, 5E3D=2F886, 5E69=2F887, 3862=2F888, 22183=2F889, 387C=2F88A,
   5EB0=2F88B, 5EB3=2F88C, 5EB6=2F88D, 2A392=2F88F, 22331=2F891-2F892, 8201=2F893 2F98B,
   5F22=2F894-2F895, 38C7=2F896, 232B8=2F897, 261DA=2F898, 5F62=2F899, 5F6B=2F89A, 38E3=2F89B,
   5F9A=2F89C, 5FCD=2F89D, 5FD7=2F89E, 5FF9=2F89F, 6081=2F8A0, 393A=2F8A1, 391C=2F8A2,
   226D4=2F8A4, 60C7=2F8A5, 6148=2F8A6, 614C=2F8A7 2F8A9, 617A=2F8AA, 61B2=2F8AC, 61A4=2F8AD,
   61AF=2F8AE, 61DE=2F8AF, 6210=2F8B2, 621B=2F8B3, 625D=2F8B4, 62B1=2F8B5, 62D4=2F8B6, 6350=2F8B7,
   22B0C=2F8B8, 633D=2F8B9, 62FC=2F8BA, 6368=2F8BB, 6383=2F8BC, 63E4=2F8BD, 22BF1=2F8BE,
   6422=2F8BF, 63C5=2F8C0, 63A9=2F8C1, 3A2E=2F8C2, 6469=2F8C3, 647E=2F8C4, 649D=2F8C5, 6477=2F8C6,
   3A6C=2F8C7, 656C=2F8C9, 2300A=2F8CA, 65E3=2F8CB, 66F8=2F8CC, 6649=2F8CD, 3B19=2F8CE,
   3B08=2F8D0, 3AE4=2F8D1, 5192=2F8D2, 5195=2F8D3, 6700=2F8D4, 669C=2F8D5, 80AD=2F8D6, 43D9=2F8D7,
   6721=2F8DA, 675E=2F8DB, 6753=2F8DC, 233C3=2F8DD, 3B49=2F8DE, 67FA=2F8DF, 6785=2F8E0,
   6852=2F8E1, 2346D=2F8E3, 688E=2F8E4, 681F=2F8E5, 6914=2F8E6, 6942=2F8E8, 69A3=2F8E9,
   69EA=2F8EA, 6AA8=2F8EB, 236A3=2F8EC, 6ADB=2F8ED, 3C18=2F8EE, 6B21=2F8EF, 238A7=2F8F0,
   6B54=2F8F1, 3C4E=2F8F2, 6B72=2F8F3, 6B9F=2F8F4, 6BBB=2F8F6, 23A8D=2F8F7, 21D0B=2F8F8,
   23AFA=2F8F9, 6C4E=2F8FA, 23CBC=2F8FB, 6CBF=2F8FC, 6CCD=2F8FD, 6C67=2F8FE, 6D16=2F8FF,
   6D3E=2F900, 6D69=2F903, 6D78=2F904, 6D85=2F905, 23D1E=2F906, 6D34=2F907, 6E2F=2F908,
   6E6E=2F909, 3D33=2F90A, 6EC7=2F90C, 23ED1=2F90D, 6DF9=2F90E, 6F6E=2F90F, 23F5E=2F910,
   23F8E=2F911, 6FC6=2F912, 7039=2F913, 701B=2F915, 3D96=2F916, 704A=2F917, 707D=2F918,
   7077=2F919, 70AD=2F91A, 20525=2F91B, 7145=2F91C, 24263=2F91D, 719C=2F91E, 243AB=2F91F,
   7228=2F920, 7250=2F922, 24608=2F923, 7280=2F924, 7295=2F925, 24735=2F926, 24814=2F927,
   737A=2F928, 738B=2F929, 3EAC=2F92A, 73A5=2F92B, 3EB8=2F92C-2F92D, 7447=2F92E, 745C=2F92F,
   7485=2F931, 74CA=2F932, 3F1B=2F933, 7524=2F934, 24C36=2F935, 753E=2F936, 24C92=2F937,
   2219F=2F939, 7610=2F93A, 24FA1=2F93B, 24FB8=2F93C, 25044=2F93D, 3FFC=2F93E, 4008=2F93F,
   250F3=2F941, 250F2=2F942, 25119=2F943, 25133=2F944, 771E=2F945, 771F=2F946-2F947, 778B=2F94A,
   4046=2F94B, 4096=2F94C, 2541D=2F94D, 784E=2F94E, 40E3=2F951, 25626=2F952, 2569A=2F954,
   256C5=2F955, 79EB=2F957, 412F=2F958, 7A4A=2F95A, 7A4F=2F95B, 2597C=2F95C, 25AA7=2F95D-2F95E,
   7AEE=2F95F, 4202=2F960, 25BAB=2F961, 7BC6=2F962, 7BC9=2F963, 4227=2F964, 25C80=2F965,
   7CD2=2F966, 42A0=2F967, 7CE8=2F968, 7CE3=2F969, 7D00=2F96A, 25F86=2F96B, 7D63=2F96C,
   4301=2F96D, 7DC7=2F96E, 7E02=2F96F, 7E45=2F970, 4334=2F971, 26228=2F972, 26247=2F973,
   4359=2F974, 262D9=2F975, 7F7A=2F976, 2633E=2F977, 7F95=2F978, 7FFA=2F979, 264DA=2F97B,
   26523=2F97C, 8060=2F97D, 265A8=2F97E, 8070=2F97F, 2335F=2F980, 43D5=2F981, 80B2=2F982,
   8103=2F983, 440B=2F984, 813E=2F985, 5AB5=2F986, 267A7=2F987, 267B5=2F988, 23393=2F989,
   2339C=2F98A, 8204=2F98C, 8F9E=2F98D, 446B=2F98E, 8291=2F98F, 828B=2F990, 829D=2F991,
   52B3=2F992, 82B1=2F993, 82B3=2F994, 82BD=2F995, 82E6=2F996, 26B3C=2F997, 831D=2F999,
   8363=2F99A, 83AD=2F99B, 8323=2F99C, 83BD=2F99D, 83E7=2F99E, 8353=2F9A0, 83CA=2F9A1, 83CC=2F9A2,
   83DC=2F9A3, 26C36=2F9A4, 26D6B=2F9A5, 26CD5=2F9A6, 452B=2F9A7, 84F1=2F9A8, 84F3=2F9A9,
   8516=2F9AA, 273CA=2F9AB, 8564=2F9AC, 26F2C=2F9AD, 455D=2F9AE, 4561=2F9AF, 26FB1=2F9B0,
   270D2=2F9B1, 456B=2F9B2, 8650=2F9B3, 8667=2F9B5, 8669=2F9B6, 86A9=2F9B7, 8688=2F9B8,
   870E=2F9B9, 86E2=2F9BA, 8728=2F9BC, 876B=2F9BD, 8786=2F9BE, 45D7=2F9BF, 87E1=2F9C0, 8801=2F9C1,
   45F9=2F9C2, 8860=2F9C3, 27667=2F9C5, 88D7=2F9C6, 88DE=2F9C7, 4635=2F9C8, 88FA=2F9C9,
   34BB=2F9CA, 278AE=2F9CB, 27966=2F9CC, 46BE=2F9CD, 46C7=2F9CE, 8AA0=2F9CF, 27CA8=2F9D3,
   8CAB=2F9D4, 8CC1=2F9D5, 8D1B=2F9D6, 8D77=2F9D7, 27F2F=2F9D8, 20804=2F9D9, 8DCB=2F9DA,
   8DBC=2F9DB, 8DF0=2F9DC, 208DE=2F9DD, 8ED4=2F9DE, 285D2=2F9E0, 285ED=2F9E1, 9094=2F9E2,
   90F1=2F9E3, 9111=2F9E4, 2872E=2F9E5, 911B=2F9E6, 9238=2F9E7, 92D7=2F9E8, 92D8=2F9E9,
   927C=2F9EA, 93F9=2F9EB, 9415=2F9EC, 28BFA=2F9ED, 958B=2F9EE, 4995=2F9EF, 95B7=2F9F0,
   28D77=2F9F1, 49E6=2F9F2, 96C3=2F9F3, 5DB2=2F9F4, 9723=2F9F5, 29145=2F9F6, 2921A=2F9F7,
   4A6E=2F9F8, 4A76=2F9F9, 97E0=2F9FA, 2940A=2F9FB, 4AB2=2F9FC, 29496=2F9FD, 9829=2FA00,
   295B6=2FA01, 98E2=2FA02, 4B33=2FA03, 9929=2FA04, 99A7=2FA05, 99C2=2FA06, 99FE=2FA07,
   4BCE=2FA08, 29B30=2FA09, 9C40=2FA0B, 9CFD=2FA0C, 4CCE=2FA0D, 4CED=2FA0E, 9D67=2FA0F,
   2A0CE=2FA10, 4CF8=2FA11, 2A105=2FA12, 2A20E=2FA13, 2A291=2FA14, 4D56=2FA16, 9EFE=2FA18,
   9F05=2FA19, 9F0F=2FA1A, 9F16=2FA1B, 2A600=2FA1D"

/-- What is left out of a domain. -/
def domainIgnoredTable : String :=
  "AD 34F 115F-1160 17B4-17B5 180B-180F 200B 2060-2064 206A-206F 3164 FE00-FE0F FEFF FFA0
   1BCA0-1BCA3 1D173-1D17A E0100-E01EF"

/-- What no domain may have. -/
def domainRefusedTable : String :=
  "80-9F 600-605 61C 6DD 70F 890-891 8E2 1680 200E-200F 2024-2026 2028-202E 2065-2069 2488-249B
   2FF0-2FFF 31EF 33C2 33C7 33D8 E000-F8FF FDD0-FDEF FE12 FE19 FE30 FE52 FFF0-FFFF 110BD 110CD
   13430-1343F 1F100 1FFFE-1FFFF 2FFFE-2FFFF 3FFFE-E00FF E01F0-10FFFF"

/-- Marks, which combine with what stands before them. -/
def markTable : String :=
  "300-36F 483-489 591-5BD 5BF 5C1-5C2 5C4-5C5 5C7 610-61A 64B-65F 670 6D6-6DC 6DF-6E4 6E7-6E8
   6EA-6ED 711 730-74A 7A6-7B0 7EB-7F3 7FD 816-819 81B-823 825-827 829-82D 859-85B 897-89F 8CA-8E1
   8E3-903 93A-93C 93E-94F 951-957 962-963 981-983 9BC 9BE-9C4 9C7-9C8 9CB-9CD 9D7 9E2-9E3 9FE
   A01-A03 A3C A3E-A42 A47-A48 A4B-A4D A51 A70-A71 A75 A81-A83 ABC ABE-AC5 AC7-AC9 ACB-ACD AE2-AE3
   AFA-AFF B01-B03 B3C B3E-B44 B47-B48 B4B-B4D B53-B57 B62-B63 B82 BBE-BC2 BC6-BC8 BCA-BCD BD7
   C00-C04 C3C C3E-C44 C46-C48 C4A-C4D C55-C56 C62-C63 C81-C83 CBC CBE-CC4 CC6-CC8 CCA-CCD CD5-CD6
   CE2-CE3 CF3 D00-D03 D3B-D3C D3E-D44 D46-D48 D4A-D4D D57 D62-D63 D81-D83 DCA DCF-DD4 DD6 DD8-DDF
   DF2-DF3 E31 E34-E3A E47-E4E EB1 EB4-EBC EC8-ECE F18-F19 F35 F37 F39 F3E-F3F F71-F84 F86-F87
   F8D-F97 F99-FBC FC6 102B-103E 1056-1059 105E-1060 1062-1064 1067-106D 1071-1074 1082-108D 108F
   109A-109D 135D-135F 1712-1715 1732-1734 1752-1753 1772-1773 17B4-17D3 17DD 180B-180D 180F
   1885-1886 18A9 1920-192B 1930-193B 1A17-1A1B 1A55-1A5E 1A60-1A7C 1A7F 1AB0-1B04 1B34-1B44
   1B6B-1B73 1B80-1B82 1BA1-1BAD 1BE6-1BF3 1C24-1C37 1CD0-1CD2 1CD4-1CE8 1CED 1CF4 1CF7-1CF9
   1DC0-1DFF 20D0-20FF 2CEF-2CF1 2D7F 2DE0-2DFF 302A-302F 3099-309A A66F-A672 A674-A67D A69E-A69F
   A6F0-A6F1 A802 A806 A80B A823-A827 A82C A880-A881 A8B4-A8C5 A8E0-A8F1 A8FF A926-A92D A947-A953
   A980-A983 A9B3-A9C0 A9E5 AA29-AA36 AA43 AA4C-AA4D AA7B-AA7D AAB0 AAB2-AAB4 AAB7-AAB8 AABE-AABF
   AAC1 AAEB-AAEF AAF5-AAF6 ABE3-ABEA ABEC-ABED FB1E FE00-FE0F FE20-FE2F 101FD 102E0 10376-1037A
   10A01-10A03 10A05-10A06 10A0C-10A0F 10A38-10A3A 10A3F 10AE5-10AE6 10D24-10D27 10D69-10D6D
   10EAB-10EAC 10EF0-10EFF 10F46-10F50 10F82-10F85 11000-11002 11038-11046 11070 11073-11074
   1107F-11082 110B0-110BA 110C2 11100-11102 11127-11134 11145-11146 11173 11180-11182 111B3-111C0
   111C9-111CC 111CE-111CF 1122C-11237 1123E 11241 112DF-112EA 11300-11303 1133B-1133C 1133E-11344
   11347-11348 1134B-1134D 11357 11362-11363 11366-1136C 11370-11374 113B8-113C0 113C2 113C5
   113C7-113CA 113CC-113D0 113D2 113E1-113E2 11435-11446 1145E 114B0-114C3 115AF-115B5 115B8-115C0
   115DC-115DD 11630-11640 116AB-116B7 1171D-1172B 1182C-1183A 11930-11935 11937-11938 1193B-1193E
   11940 11942-11943 119D1-119D7 119DA-119E0 119E4 11A01-11A0A 11A33-11A39 11A3B-11A3E 11A47
   11A51-11A5B 11A8A-11A99 11B60-11B67 11C2F-11C36 11C38-11C3F 11C92-11CA7 11CA9-11CB6 11D31-11D36
   11D3A 11D3C-11D3D 11D3F-11D45 11D47 11D8A-11D8E 11D90-11D91 11D93-11D97 11EF3-11EF6 11F00-11F01
   11F03 11F34-11F3A 11F3E-11F42 11F5A 13440 13447-13455 1611E-1612F 16AF0-16AF4 16B30-16B36 16F4F
   16F51-16F87 16F8F-16F92 16FE4 16FF0-16FF1 1BC9D-1BC9E 1CF00-1CF2D 1CF30-1CF46 1D165-1D169
   1D16D-1D172 1D17B-1D182 1D185-1D18B 1D1AA-1D1AD 1D242-1D244 1DA00-1DA36 1DA3B-1DA6C 1DA75 1DA84
   1DA9B-1DA9F 1DAA1-1DAAF 1E000-1E006 1E008-1E018 1E01B-1E021 1E023-1E024 1E026-1E02A 1E08F
   1E130-1E136 1E2AE 1E2EC-1E2EF 1E4EC-1E4EF 1E5EE-1E5EF 1E6E3 1E6E6 1E6EE-1E6EF 1E6F5 1E8D0-1E8D6
   1E944-1E94A E0100-E01EF"

end RestSuite.Unicode
